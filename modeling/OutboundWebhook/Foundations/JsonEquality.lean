import OutboundWebhook.Foundations.Json
import Mathlib.Data.List.Nodup

/-!
# Equality of JSON values

An object is a set of named values: two objects are the same value when they have the same names
and under each name the same value, in whatever order the members are written. `Json.Same` says
so at every depth. It is coarser than the equality of `Json`, which keeps the written order.

`Json.SameOrder` is what is missing between the two: objects that stand in the same place list
their members in the same order. Nothing is said of other values, so it relates values that are not
the same at all.

## Main results

* `Json.Same.eq_of_sameOrder` — the same value, written in the same order
-/

namespace Json

/-- No object has two members of one name. -/
def WellFormed (j : Json) : Prop :=
  j.Everywhere fun k => ∀ members, k = .object members → (members.map Prod.fst).Nodup

/-- Equality of values. -/
inductive Same : Json → Json → Prop
  | null : Same .null .null
  | bool (b : Bool) : Same (.bool b) (.bool b)
  | number (n : ℤ) : Same (.number n) (.number n)
  | decimal (text : String) : Same (.decimal text) (.decimal text)
  | string (s : String) : Same (.string s) (.string s)
  | array {items items' : List Json} (hlength : items.length = items'.length)
      (h : ∀ p ∈ items.zip items', Same p.1 p.2) : Same (.array items) (.array items')
  | object {members members' : List (String × Json)}
      (hnames : (members.map Prod.fst).Perm (members'.map Prod.fst))
      (h : ∀ m ∈ members, ∀ m' ∈ members', m.1 = m'.1 → Same m.2 m'.2) :
    Same (.object members) (.object members')

/-- Objects in the same place list their members in the same order. -/
inductive SameOrder : Json → Json → Prop
  | scalar {j j' : Json} (hitems : ∀ items, j ≠ .array items)
      (hmembers : ∀ members, j ≠ .object members) : SameOrder j j'
  | array {items items' : List Json} (h : ∀ p ∈ items.zip items', SameOrder p.1 p.2) :
    SameOrder (.array items) (.array items')
  | object {members members' : List (String × Json)}
      (hnames : members.map Prod.fst = members'.map Prod.fst)
      (h : ∀ p ∈ members.zip members', SameOrder p.1.2 p.2.2) :
    SameOrder (.object members) (.object members')

/-! ### Lists side by side -/

section Zip

variable {α : Type} {l l' : List α}

theorem eq_of_forall_zip (hlength : l.length = l'.length) (h : ∀ p ∈ l.zip l', p.1 = p.2) :
    l = l' := by
  induction l generalizing l' with
  | nil => exact (List.length_eq_zero_iff.mp hlength.symm).symm
  | cons a l ih =>
    cases l' with
    | nil => cases hlength
    | cons a' l' =>
      rw [List.zip_cons_cons, List.forall_mem_cons] at h
      obtain rfl : a = a' := h.1
      rw [ih (Nat.succ.inj hlength) h.2]

theorem map_eq_of_mem_zip {β : Type} {f : α → β} (hmap : l.map f = l'.map f) {p : α × α}
    (h : p ∈ l.zip l') : f p.1 = f p.2 := by
  induction l generalizing l' with
  | nil => cases h
  | cons a l ih =>
    cases l' with
    | nil => cases h
    | cons a' l' =>
      rw [List.map_cons, List.map_cons, List.cons.injEq] at hmap
      rcases List.mem_cons.mp h with rfl | h
      · exact hmap.1
      · exact ih hmap.2 h

theorem eq_of_mem_zip_self {p : α × α} (h : p ∈ l.zip l) : p.1 = p.2 :=
  map_eq_of_mem_zip (f := id) rfl h

end Zip

/-! ### The two relations -/

theorem SameOrder.refl (j : Json) : SameOrder j j := by
  induction j using induct with
  | array items ih =>
    refine .array ?_
    intro p hp
    rw [← eq_of_mem_zip_self hp]
    exact ih p.1 (List.of_mem_zip hp).1
  | object members ih =>
    refine .object rfl ?_
    intro p hp
    rw [← eq_of_mem_zip_self hp]
    exact ih p.1 (List.of_mem_zip hp).1
  | _ => exact .scalar (fun _ h => nomatch h) fun _ h => nomatch h

theorem Same.refl {j : Json} (hj : j.WellFormed) : Same j j := by
  induction j using induct with
  | null => exact .null
  | bool b => exact .bool b
  | number n => exact .number n
  | decimal text => exact .decimal text
  | string s => exact .string s
  | array items ih =>
    refine .array rfl ?_
    intro p hp
    have hmem := (List.of_mem_zip hp).1
    rw [← eq_of_mem_zip_self hp]
    exact ih p.1 hmem (hj.item hmem)
  | object members ih =>
    refine .object (List.Perm.refl _) ?_
    intro m hm m' hm' hname
    have hnodup : (members.map Prod.fst).Nodup := hj.here members rfl
    obtain rfl : m = m' := List.inj_on_of_nodup_map hnodup hm hm' hname
    exact ih m hm (hj.member hm)

/-- **The same value, written in the same order**, is written in the same way. -/
theorem Same.eq_of_sameOrder {j j' : Json} (h : Same j j') (horder : SameOrder j j') : j = j' := by
  induction h with
  | null => rfl
  | bool b => rfl
  | number n => rfl
  | decimal text => rfl
  | string s => rfl
  | array hlength h ih =>
    cases horder with
    | scalar hitems => exact absurd rfl (hitems _)
    | array horder => rw [eq_of_forall_zip hlength fun p hp => ih p hp (horder p hp)]
  | @object members members' hnames h ih =>
    cases horder with
    | scalar _ hmembers => exact absurd rfl (hmembers _)
    | object hsame horder =>
      have hlength : members.length = members'.length := by
        rw [← List.length_map, hsame, List.length_map]
      have hpairs : ∀ p ∈ members.zip members', p.1 = p.2 := by
        intro p hp
        obtain ⟨hm, hm'⟩ := List.of_mem_zip hp
        have hname : p.1.1 = p.2.1 := map_eq_of_mem_zip hsame hp
        exact Prod.ext hname (ih p.1 hm p.2 hm' hname (horder p hp))
      rw [eq_of_forall_zip hlength hpairs]

end Json
