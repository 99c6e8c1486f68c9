import Mathlib.Data.List.Sort
import Mathlib.Data.List.Range

/-!
# Numbering attempts within cycles

An attempt is a pair `(cycle, number)`. `Numbered bound cycle last keys` says that `keys` is a
complete and gap-free record of attempts: cycles count from `0` up to the current `cycle`, each
earlier cycle holds the numbers `1, …, k` for one `k` between `1` and `bound`, and the current one
holds `1, …, last`. The order of the list is the order of the record, and it is increasing.

Two moves keep the record numbered: adding the next attempt of the current cycle (`push`) and
opening the next cycle (`nextCycle`), which is possible only when the current one is not empty.
-/

/-- `p` comes before `q`: an earlier cycle, or an earlier number of the same cycle. -/
def Before (p q : ℤ × ℤ) : Prop := p.1 < q.1 ∨ p.1 = q.1 ∧ p.2 < q.2

instance (p q : ℤ × ℤ) : Decidable (Before p q) := inferInstanceAs (Decidable (_ ∨ _))

theorem Before.ne {p q : ℤ × ℤ} (h : Before p q) : p ≠ q := by
  rintro rfl
  rcases h with h | h <;> omega

theorem Before.trans {p q r : ℤ × ℤ} (h : Before p q) (h' : Before q r) : Before p r := by
  unfold Before at *
  omega

/-- A complete, gap-free and ordered record of attempts. -/
structure Numbered (bound cycle last : ℤ) (keys : List (ℤ × ℤ)) : Prop where
  /-- The record is in order. -/
  increasing : keys.Pairwise Before
  /-- Cycles count from `0` to the current one. -/
  range : ∀ p ∈ keys, 0 ≤ p.1 ∧ p.1 ≤ cycle
  /-- Earlier cycles are not empty, have no gap and stay within the bound. -/
  past : ∀ r, 0 ≤ r → r < cycle → ∃ k, 1 ≤ k ∧ k ≤ bound ∧ ∀ n, (r, n) ∈ keys ↔ 1 ≤ n ∧ n ≤ k
  /-- The current cycle holds `1, …, last`. -/
  current : ∀ n, (cycle, n) ∈ keys ↔ 1 ≤ n ∧ n ≤ last

namespace Numbered

variable {bound cycle last : ℤ} {keys : List (ℤ × ℤ)}

theorem nil (bound : ℤ) : Numbered bound 0 0 [] where
  increasing := List.Pairwise.nil
  range := by simp
  past r h h' := by omega
  current n := by simp only [List.not_mem_nil, false_iff]; omega

theorem nodup (h : Numbered bound cycle last keys) : keys.Nodup :=
  h.increasing.imp Before.ne

/-- Every recorded attempt comes before the next one. -/
theorem before_next (h : Numbered bound cycle last keys) {p : ℤ × ℤ} (hp : p ∈ keys) :
    Before p (cycle, last + 1) := by
  obtain ⟨r, n⟩ := p
  rcases lt_or_eq_of_le (h.range _ hp).2 with hlt | heq
  · exact .inl hlt
  · simp only at heq
    subst heq
    have := (h.current n).mp hp
    exact .inr ⟨rfl, show n < last + 1 by omega⟩

/-- Adding the next attempt of the current cycle. -/
theorem push (h : Numbered bound cycle last keys) (hc : 0 ≤ cycle) (hl : 0 ≤ last) :
    Numbered bound cycle (last + 1) (keys ++ [(cycle, last + 1)]) where
  increasing := by
    rw [List.pairwise_append]
    refine ⟨h.increasing, List.pairwise_singleton _ _, ?_⟩
    intro p hp q hq
    rw [List.mem_singleton.mp hq]
    exact h.before_next hp
  range p hp := by
    rcases List.mem_append.mp hp with hp | hp
    · exact h.range p hp
    · rw [List.mem_singleton.mp hp]
      exact ⟨hc, le_rfl⟩
  past r hr hr' := by
    obtain ⟨k, h1, hk, hmem⟩ := h.past r hr hr'
    refine ⟨k, h1, hk, ?_⟩
    intro n
    rw [← hmem, List.mem_append, List.mem_singleton, Prod.mk.injEq]
    constructor
    · rintro (hn | ⟨hn, -⟩)
      · exact hn
      · omega
    · exact .inl
  current n := by
    rw [List.mem_append, h.current, List.mem_singleton, Prod.mk.injEq]
    constructor
    · rintro (hn | ⟨-, hn⟩) <;> omega
    · intro hn
      rcases eq_or_ne n (last + 1) with rfl | hne
      · exact .inr ⟨rfl, rfl⟩
      · exact .inl (by omega)

/-- Opening the next cycle. -/
theorem nextCycle (h : Numbered bound cycle last keys) (h1 : 1 ≤ last) (hb : last ≤ bound) :
    Numbered bound (cycle + 1) 0 keys where
  increasing := h.increasing
  range p hp := by have := h.range p hp; omega
  past r hr hr' := by
    rcases lt_or_eq_of_le (show r ≤ cycle by omega) with hlt | rfl
    · exact h.past r hr hlt
    · exact ⟨last, h1, hb, h.current⟩
  current n := by
    constructor
    · intro hn
      have := h.range _ hn
      simp only at this
      omega
    · intro hn
      omega

/-- The numbers of a cycle the record is numbered in: `1, …, k`, in this order. -/
theorem cycle_eq (h : Numbered bound cycle last keys) {r k : ℤ}
    (hmem : ∀ n, (r, n) ∈ keys ↔ 1 ≤ n ∧ n ≤ k) :
    (keys.filter fun p => p.1 = r).map Prod.snd
      = (List.range k.toNat).map fun i : ℕ => (i : ℤ) + 1 := by
  have hleft : ((keys.filter fun p => p.1 = r).map Prod.snd).Pairwise (· < ·) := by
    rw [List.pairwise_map]
    refine (h.increasing.filter _).imp_of_mem ?_
    intro p q hp hq hlt
    have hp' : p.1 = r := by simpa using (List.mem_filter.mp hp).2
    have hq' : q.1 = r := by simpa using (List.mem_filter.mp hq).2
    rcases hlt with hlt | hlt <;> omega
  have hright : ((List.range k.toNat).map fun i : ℕ => (i : ℤ) + 1).Pairwise (· < ·) := by
    rw [List.pairwise_map]
    exact List.pairwise_lt_range.imp fun {a b} hab => by omega
  refine List.Perm.eq_of_pairwise (fun a b _ _ hab hba => absurd hab (asymm hba)) hleft hright ?_
  refine (List.perm_ext_iff_of_nodup (hleft.imp ne_of_lt) (hright.imp ne_of_lt)).mpr ?_
  intro n
  have hl : n ∈ (keys.filter fun p => p.1 = r).map Prod.snd ↔ (r, n) ∈ keys := by
    constructor
    · intro hn
      obtain ⟨⟨r', n'⟩, hp, rfl⟩ := List.mem_map.mp hn
      obtain ⟨hp, hr⟩ := List.mem_filter.mp hp
      have hr : r' = r := by simpa using hr
      exact hr ▸ hp
    · intro hn
      exact List.mem_map.mpr ⟨(r, n), List.mem_filter.mpr ⟨hn, by simp⟩, rfl⟩
  rw [hl, hmem, List.mem_map]
  constructor
  · rintro ⟨h1, hk⟩
    exact ⟨(n - 1).toNat, List.mem_range.mpr (by omega), by omega⟩
  · rintro ⟨i, hi, rfl⟩
    have := List.mem_range.mp hi
    omega

/-- No cycle holds more numbers than the bound. -/
theorem length_cycle_le (h : Numbered bound cycle last keys) (hb : 0 ≤ bound) (hl : last ≤ bound)
    (r : ℤ) : ((keys.filter fun p => p.1 = r).length : ℤ) ≤ bound := by
  have hlength : ∀ k, (∀ n, (r, n) ∈ keys ↔ 1 ≤ n ∧ n ≤ k) → k ≤ bound →
      ((keys.filter fun p => p.1 = r).length : ℤ) ≤ bound := by
    intro k hmem hk
    have heq := congrArg List.length (h.cycle_eq hmem)
    rw [List.length_map, List.length_map, List.length_range] at heq
    omega
  by_cases hr : 0 ≤ r ∧ r ≤ cycle
  · rcases lt_or_eq_of_le hr.2 with hlt | rfl
    · obtain ⟨k, -, hk, hmem⟩ := h.past r hr.1 hlt
      exact hlength k hmem hk
    · exact hlength last h.current hl
  · -- a cycle that is not recorded
    have hnil : keys.filter (fun p => p.1 = r) = [] := by
      rw [List.filter_eq_nil_iff]
      intro p hp heq
      have := h.range p hp
      simp only [decide_eq_true_eq] at heq
      omega
    rw [hnil]
    exact hb

end Numbered
