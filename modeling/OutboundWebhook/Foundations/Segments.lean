import Mathlib.Data.List.Infix

/-!
# Splitting at a separator

`List.splitOn` and `List.intercalate` are inverse to each other on lists of segments that do not
contain the separator. Here is what a segment list says about the list it was split from: where an
empty segment shows, and which elements occur.
-/

namespace Segments

variable {α : Type*}

/-- The join of two lists of segments. -/
theorem intercalate_append {a : α} {xs ys : List (List α)} (hxs : xs ≠ []) (hys : ys ≠ []) :
    [a].intercalate (xs ++ ys) = [a].intercalate xs ++ a :: [a].intercalate ys := by
  induction xs with
  | nil => exact absurd rfl hxs
  | cons x xs ih =>
    cases xs with
    | nil =>
      rw [List.singleton_append, List.intercalate_cons_of_ne_nil hys, List.intercalate_singleton,
        List.append_assoc, List.singleton_append]
    | cons x' xs =>
      rw [List.cons_append, List.cons_append, List.intercalate_cons_cons, ← List.cons_append,
        ih (List.cons_ne_nil _ _), List.intercalate_cons_cons]
      simp only [List.append_assoc]

variable [DecidableEq α]

/-- A split list has no separator left. -/
theorem notMem_of_mem_splitOn {a : α} {l segment : List α} (h : segment ∈ l.splitOn a) :
    a ∉ segment := by
  induction l generalizing segment with
  | nil =>
    rw [List.splitOn_nil, List.mem_singleton] at h
    exact h ▸ List.not_mem_nil
  | cons x l ih =>
    rw [List.splitOn_cons_eq_if_modifyHead] at h
    by_cases hx : x = a
    · rw [if_pos (beq_iff_eq.mpr hx), List.mem_cons] at h
      exact h.elim (fun hnil => hnil ▸ List.not_mem_nil) ih
    · rw [if_neg (by simpa using hx)] at h
      cases hsplit : l.splitOn a with
      | nil => exact absurd hsplit (List.splitOn_ne_nil _ _)
      | cons first rest =>
        rw [hsplit, List.modifyHead_cons, List.mem_cons] at h
        rcases h with rfl | h
        · have hfirst := ih (hsplit ▸ List.mem_cons_self)
          exact fun hmem => (List.mem_cons.mp hmem).elim (fun h => hx h.symm) hfirst
        · exact ih (hsplit ▸ List.mem_cons_of_mem _ h)

/-- The separator aside, the elements of a list are those of its segments. -/
theorem mem_iff_of_ne {a b : α} (hb : b ≠ a) {l : List α} :
    b ∈ l ↔ ∃ segment ∈ l.splitOn a, b ∈ segment := by
  induction l with
  | nil => simp
  | cons x l ih =>
    rw [List.splitOn_cons_eq_if_modifyHead, List.mem_cons, ih]
    by_cases hx : x = a
    · rw [if_pos (beq_iff_eq.mpr hx)]
      simp [show b ≠ x from fun h => hb (h.trans hx)]
    · rw [if_neg (by simpa using hx)]
      cases hsplit : l.splitOn a with
      | nil => exact absurd hsplit (List.splitOn_ne_nil _ _)
      | cons first rest => simp [or_assoc]

/-- **Where an empty segment shows.** In the empty list, at either end, or between two adjacent
separators. -/
theorem nil_mem_splitOn_iff {a : α} {l : List α} :
    [] ∈ l.splitOn a ↔ l = [] ∨ l.head? = some a ∨ l.getLast? = some a ∨ [a, a] <:+: l := by
  constructor
  · intro h
    obtain ⟨before, after, hsplit⟩ := List.append_of_mem h
    have hl : l = [a].intercalate (before ++ [] :: after) := by
      rw [← hsplit, List.intercalate_splitOn]
    cases before with
    | nil =>
      cases after with
      | nil => exact .inl hl
      | cons next after =>
        rw [List.nil_append, List.intercalate_cons_cons] at hl
        exact .inr (.inl (by rw [hl]; rfl))
    | cons first before =>
      rw [intercalate_append (List.cons_ne_nil _ _) (List.cons_ne_nil _ _)] at hl
      cases after with
      | nil =>
        rw [List.intercalate_singleton] at hl
        exact .inr (.inr (.inl (by rw [hl]; simp)))
      | cons next after =>
        rw [List.intercalate_cons_cons, List.nil_append, List.singleton_append] at hl
        exact .inr (.inr (.inr ⟨[a].intercalate (first :: before), [a].intercalate (next :: after),
          by rw [hl]; simp⟩))
  · rintro (rfl | h | h | ⟨before, after, rfl⟩)
    · simp
    · obtain ⟨rest, rfl⟩ := List.head?_eq_some_iff.mp h
      have hsplit := List.splitOn_append_cons_self (a := a) [] rest
      rw [List.nil_append, List.splitOn_nil] at hsplit
      simp [hsplit]
    · obtain ⟨rest, rfl⟩ := List.getLast?_eq_some_iff.mp h
      rw [List.splitOn_append_cons_self, List.splitOn_nil]
      simp
    · have hsplit := List.splitOn_append_cons_self (a := a) [] after
      rw [List.nil_append, List.splitOn_nil] at hsplit
      rw [List.append_assoc, List.cons_append, List.singleton_append,
        List.splitOn_append_cons_self, hsplit]
      simp

end Segments
