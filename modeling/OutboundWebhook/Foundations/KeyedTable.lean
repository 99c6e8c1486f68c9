import Mathlib.Data.List.Nodup
import Mathlib.Data.List.Lemmas

/-!
# Lists as tables with a unique key

A table is the list of its rows in insertion order, and `key` reads the unique column of a row.
`lookup` is a `SELECT` by key, `insertNew` an `INSERT` that leaves the table alone when the key is
taken.

The statements are about `lookup`, because two tables with unique keys and the same lookups have
the same rows: updating rows in place commutes with `lookup` as long as no key changes
(`lookup_map`), and appending a row is seen under its own key only (`lookup_append`).
-/

namespace KeyedTable

variable {α κ : Type*} {key : α → κ} {l : List α} {k : κ} {a : α}

theorem eq_of_key_eq {b : α} (hl : (l.map key).Nodup) (ha : a ∈ l) (hb : b ∈ l)
    (h : key a = key b) : a = b :=
  List.inj_on_of_nodup_map hl ha hb h

theorem map_key_map {f : α → α} (hf : ∀ a, key (f a) = key a) :
    (l.map f).map key = l.map key := by
  simp [Function.comp_def, hf]

theorem nodup_map_append_singleton (hl : (l.map key).Nodup) (h : key a ∉ l.map key) :
    ((l ++ [a]).map key).Nodup := by
  rw [List.map_append, List.map_singleton, List.nodup_append]
  refine ⟨hl, List.nodup_singleton _, ?_⟩
  rintro x hx y hy rfl
  exact h (List.mem_singleton.mp hy ▸ hx)

variable [DecidableEq κ]

/-- The row stored under `k`. -/
def lookup (key : α → κ) (k : κ) (l : List α) : Option α := l.find? fun a => key a = k

theorem lookup_eq_none_iff : lookup key k l = none ↔ k ∉ l.map key := by
  simp [lookup, List.find?_eq_none]

theorem mem_of_lookup (h : lookup key k l = some a) : a ∈ l := List.mem_of_find?_eq_some h

theorem key_of_lookup (h : lookup key k l = some a) : key a = k := by
  simpa using List.find?_some h

/-- With unique keys every row is found under its key. -/
theorem lookup_of_mem (hl : (l.map key).Nodup) (ha : a ∈ l) : lookup key (key a) l = some a := by
  induction l with
  | nil => simp at ha
  | cons b l ih =>
    rw [List.map_cons, List.nodup_cons] at hl
    rcases List.mem_cons.mp ha with rfl | ha'
    · simp [lookup]
    · have hne : key b ≠ key a := fun h => hl.1 (h ▸ List.mem_map_of_mem ha')
      have := ih hl.2 ha'
      simpa [lookup, hne] using this

theorem lookup_eq_some_iff (hl : (l.map key).Nodup) :
    lookup key k l = some a ↔ a ∈ l ∧ key a = k := by
  constructor
  · intro h
    exact ⟨mem_of_lookup h, key_of_lookup h⟩
  · rintro ⟨ha, rfl⟩
    exact lookup_of_mem hl ha

/-- A condition that pins the key selects at most the row stored under it. -/
theorem filter_eq_toList (hl : (l.map key).Nodup) {p : α → Bool} (hp : ∀ a ∈ l, p a → key a = k) :
    l.filter p = ((lookup key k l).filter p).toList := by
  induction l with
  | nil => rfl
  | cons b l ih =>
    rw [List.map_cons, List.nodup_cons] at hl
    have ih := ih hl.2 fun a ha => hp a (List.mem_cons_of_mem _ ha)
    by_cases hb : key b = k
    · have hnone : lookup key k l = none := lookup_eq_none_iff.mpr (hb ▸ hl.1)
      have hsome : lookup key k (b :: l) = some b := by simp [lookup, hb]
      rw [hnone] at ih
      rw [hsome, List.filter_cons, ih]
      cases hpb : p b <;> simp [Option.filter, hpb]
    · have hpb : p b = false := by
        cases h : p b with
        | false => rfl
        | true => exact absurd (hp b List.mem_cons_self h) hb
      have hskip : lookup key k (b :: l) = lookup key k l := by simp [lookup, hb]
      rw [hskip, List.filter_cons, hpb]
      exact ih

theorem filter_key_of_mem (hl : (l.map key).Nodup) (ha : a ∈ l) :
    (l.filter fun b => key b = key a) = [a] := by
  rw [filter_eq_toList hl (k := key a) fun b _ hb => by simpa using hb, lookup_of_mem hl ha]
  simp [Option.filter]

theorem filter_key_of_notMem (h : k ∉ l.map key) : (l.filter fun b => key b = k) = [] := by
  rw [List.filter_eq_nil_iff]
  intro b hb hk
  exact h (List.mem_map.mpr ⟨b, hb, by simpa using hk⟩)

/-! ### Updating rows in place -/

/-- Updates that keep every key are seen through `lookup`. -/
theorem lookup_map {f : α → α} (hf : ∀ a, key (f a) = key a) :
    lookup key k (l.map f) = (lookup key k l).map f := by
  rw [lookup, List.find?_map]
  simp only [Function.comp_def, hf]
  rfl

/-- An update that takes rows out of a selection and leaves the others of it alone. -/
theorem filter_map_update {f : α → α} {p q : α → Bool} (hp : ∀ a ∈ l, p (f a) = (p a && q a))
    (hf : ∀ a ∈ l, p a → q a → f a = a) : (l.map f).filter p = (l.filter p).filter q := by
  have hcomp : l.filter (p ∘ f) = (l.filter p).filter q := by
    rw [List.filter_filter]
    exact List.filter_congr fun a ha => (hp a ha).trans (Bool.and_comm _ _)
  rw [List.filter_map, hcomp]
  conv_rhs => rw [← List.map_id ((l.filter p).filter q)]
  refine List.map_congr_left ?_
  intro a ha
  simp only [List.mem_filter] at ha
  exact hf a ha.1.1 ha.1.2 ha.2

/-! ### Inserting -/

theorem lookup_append {l' : List α} :
    lookup key k (l ++ l') = (lookup key k l).or (lookup key k l') :=
  List.find?_append

theorem lookup_append_singleton_self (h : key a ∉ l.map key) :
    lookup key (key a) (l ++ [a]) = some a := by
  rw [lookup_append, lookup_eq_none_iff.mpr h]
  simp [lookup]

theorem lookup_append_singleton_of_ne (h : key a ≠ k) :
    lookup key k (l ++ [a]) = lookup key k l := by
  rw [lookup_append]
  simp [lookup, h]

/-- `INSERT ... ON CONFLICT DO NOTHING`. -/
def insertNew (key : α → κ) (a : α) (l : List α) : List α :=
  if key a ∈ l.map key then l else l ++ [a]

theorem insertNew_of_mem (h : key a ∈ l.map key) : insertNew key a l = l := if_pos h

theorem insertNew_of_notMem (h : key a ∉ l.map key) : insertNew key a l = l ++ [a] := if_neg h

theorem mem_insertNew_of_mem {b : α} (h : b ∈ l) : b ∈ insertNew key a l := by
  unfold insertNew
  split
  · exact h
  · exact List.mem_append_left _ h

theorem mem_of_mem_insertNew {b : α} (h : b ∈ insertNew key a l) : b ∈ l ∨ b = a := by
  unfold insertNew at h
  split at h
  · exact .inl h
  · simpa using h

theorem key_mem_insertNew : key a ∈ (insertNew key a l).map key := by
  unfold insertNew
  split
  · assumption
  · simp

theorem nodup_map_insertNew (hl : (l.map key).Nodup) : ((insertNew key a l).map key).Nodup := by
  unfold insertNew
  split
  · exact hl
  · exact nodup_map_append_singleton hl ‹_›

/-- Inserting a batch, row by row. -/
def insertAll (key : α → κ) (as : List α) (l : List α) : List α :=
  as.foldl (fun l a => insertNew key a l) l

@[simp] theorem insertAll_nil : insertAll key [] l = l := rfl

@[simp] theorem insertAll_cons {as : List α} :
    insertAll key (a :: as) l = insertAll key as (insertNew key a l) := rfl

theorem mem_insertAll_of_mem {as : List α} {b : α} (h : b ∈ l) : b ∈ insertAll key as l := by
  induction as generalizing l with
  | nil => exact h
  | cons a as ih => exact ih (mem_insertNew_of_mem h)

/-- Every key of the batch is taken afterwards. -/
theorem key_mem_insertAll {as : List α} (h : a ∈ as) : key a ∈ (insertAll key as l).map key := by
  induction as generalizing l with
  | nil => exact nomatch h
  | cons b as ih =>
    rcases List.mem_cons.mp h with rfl | h
    · rw [insertAll_cons]
      have hmem : key a ∈ (insertNew key a l).map key := key_mem_insertNew
      obtain ⟨c, hc, hkey⟩ := List.mem_map.mp hmem
      exact List.mem_map.mpr ⟨c, mem_insertAll_of_mem hc, hkey⟩
    · exact ih h

theorem nodup_map_insertAll {as : List α} (hl : (l.map key).Nodup) :
    ((insertAll key as l).map key).Nodup := by
  induction as generalizing l with
  | nil => exact hl
  | cons a as ih => exact ih (nodup_map_insertNew hl)

theorem mem_of_mem_insertAll {as : List α} {b : α} (h : b ∈ insertAll key as l) :
    b ∈ l ∨ b ∈ as := by
  induction as generalizing l with
  | nil => exact .inl h
  | cons a as ih =>
    rcases ih h with h | h
    · rcases mem_of_mem_insertNew h with h | rfl
      · exact .inl h
      · exact .inr List.mem_cons_self
    · exact .inr (List.mem_cons_of_mem _ h)

/-- A batch without repeated keys adds exactly its rows whose key is free, in order. -/
theorem insertAll_eq_append_filter {as : List α} (has : (as.map key).Nodup) :
    insertAll key as l = l ++ as.filter fun a => key a ∉ l.map key := by
  induction as generalizing l with
  | nil => simp
  | cons a as ih =>
    rw [List.map_cons, List.nodup_cons] at has
    rw [insertAll_cons, ih has.2, List.filter_cons]
    by_cases h : key a ∈ l.map key
    · rw [insertNew_of_mem h]
      simp only [h, not_true_eq_false, decide_false, Bool.false_eq_true, if_false]
    · have hrest : (as.filter fun b => key b ∉ (l ++ [a]).map key)
          = as.filter fun b => key b ∉ l.map key := by
        refine List.filter_congr ?_
        intro b hb
        have hne : key b ≠ key a := fun he => has.1 (he ▸ List.mem_map_of_mem hb)
        simp [hne]
      rw [insertNew_of_notMem h, hrest]
      simp only [h, not_false_eq_true, decide_true, if_true, List.append_assoc,
        List.singleton_append]

theorem exists_insertAll_eq_append {as : List α} (has : (as.map key).Nodup) :
    ∃ new, insertAll key as l = l ++ new ∧ new.Sublist as ∧ ∀ a ∈ new, key a ∉ l.map key := by
  refine ⟨_, insertAll_eq_append_filter has, List.filter_sublist, ?_⟩
  intro a ha
  exact of_decide_eq_true (List.mem_filter.mp ha).2

/-! ### One part of a two-part key

Where the key is a pair, the rows with a given first part form a table under the second part. -/

section Part

variable {γ δ : Type*} [DecidableEq γ] [DecidableEq δ] {part : α → γ} {rest : α → δ}
  {l : List α} {g : γ} {a : α}

omit [DecidableEq δ] in
theorem mem_map_pair_iff :
    (part a, rest a) ∈ l.map (fun b => (part b, rest b)) ↔
      rest a ∈ (l.filter fun b => part b = part a).map rest := by
  simp only [List.mem_map, List.mem_filter, Prod.mk.injEq, decide_eq_true_eq]
  constructor
  · rintro ⟨b, hb, hpart, hrest⟩
    exact ⟨b, ⟨hb, hpart⟩, hrest⟩
  · rintro ⟨b, ⟨hb, hpart⟩, hrest⟩
    exact ⟨b, hb, hpart, hrest⟩

theorem filter_insertNew_self :
    (insertNew (fun b => (part b, rest b)) a l).filter (fun b => part b = part a)
      = insertNew rest a (l.filter fun b => part b = part a) := by
  by_cases h : (part a, rest a) ∈ l.map fun b => (part b, rest b)
  · rw [insertNew_of_mem h, insertNew_of_mem (mem_map_pair_iff.mp h)]
  · rw [insertNew_of_notMem h, insertNew_of_notMem (mt mem_map_pair_iff.mpr h), List.filter_append]
    simp

theorem filter_insertNew_of_ne (h : part a ≠ g) :
    (insertNew (fun b => (part b, rest b)) a l).filter (fun b => part b = g)
      = l.filter fun b => part b = g := by
  unfold insertNew
  split
  · rfl
  · simp [List.filter_append, h]

/-- A batch is seen in each part through its own rows. -/
theorem filter_insertAll {as : List α} :
    (insertAll (fun b => (part b, rest b)) as l).filter (fun b => part b = g)
      = insertAll rest (as.filter fun b => part b = g) (l.filter fun b => part b = g) := by
  induction as generalizing l with
  | nil => rfl
  | cons a as ih =>
    rw [insertAll_cons, ih]
    by_cases h : part a = g
    · subst h
      rw [filter_insertNew_self, List.filter_cons_of_pos (by simp), insertAll_cons]
    · rw [filter_insertNew_of_ne h, List.filter_cons_of_neg (by simpa using h)]

end Part

end KeyedTable
