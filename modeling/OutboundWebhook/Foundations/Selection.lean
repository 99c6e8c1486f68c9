import Mathlib.Data.List.Sort
import Mathlib.Data.List.Pairwise

/-!
# Selecting the first rows of an ordered table

`firstBy key n l` is what `ORDER BY key LIMIT n` returns: the rows of `l` in the order of `key`,
cut after `n`. Only three facts about it are ever needed: what is selected comes from the table,
nothing is left out while there is room, and whatever is left out comes no earlier than whatever
is selected.

`leastBy key l` is the case `LIMIT 1`.
-/

namespace Selection

variable {α κ : Type*} [LinearOrder κ]

/-- The rows of `l` in the order of `key`. -/
def orderBy (key : α → κ) (l : List α) : List α := l.insertionSort fun a b => key a ≤ key b

/-- The first `n` rows of `l` in the order of `key`. -/
def firstBy (key : α → κ) (n : ℕ) (l : List α) : List α := (orderBy key l).take n

/-- The first row of `l` in the order of `key`. -/
def leastBy (key : α → κ) (l : List α) : Option α := (orderBy key l).head?

theorem perm_orderBy (key : α → κ) (l : List α) : (orderBy key l).Perm l :=
  List.perm_insertionSort _ l

theorem pairwise_orderBy (key : α → κ) (l : List α) :
    (orderBy key l).Pairwise fun a b => key a ≤ key b := by
  have : Std.Total fun a b : α => key a ≤ key b := ⟨fun a b => le_total (key a) (key b)⟩
  have : IsTrans α fun a b : α => key a ≤ key b := ⟨fun _ _ _ => le_trans⟩
  exact List.pairwise_insertionSort _ l

/-! ### The first `n` rows -/

variable {key : α → κ} {n : ℕ} {l : List α}

theorem mem_of_mem_firstBy {a : α} (h : a ∈ firstBy key n l) : a ∈ l :=
  (perm_orderBy key l).mem_iff.mp (List.mem_of_mem_take h)

@[simp] theorem length_firstBy (key : α → κ) (n : ℕ) (l : List α) :
    (firstBy key n l).length = min n l.length := by
  rw [firstBy, List.length_take, (perm_orderBy key l).length_eq]

/-- While there is room nothing is left out. -/
theorem mem_firstBy_of_length_le {a : α} (hl : l.length ≤ n) (ha : a ∈ l) :
    a ∈ firstBy key n l := by
  rw [firstBy, List.take_of_length_le ((perm_orderBy key l).length_eq.trans_le hl)]
  exact (perm_orderBy key l).mem_iff.mpr ha

/-- Whatever is left out comes no earlier than whatever is selected. -/
theorem le_of_mem_of_notMem_firstBy {a b : α} (ha : a ∈ firstBy key n l) (hb : b ∈ l)
    (hb' : b ∉ firstBy key n l) : key a ≤ key b := by
  have hsplit : (firstBy key n l ++ (orderBy key l).drop n).Pairwise fun a b => key a ≤ key b := by
    rw [firstBy, List.take_append_drop]
    exact pairwise_orderBy key l
  have hdrop : b ∈ (orderBy key l).drop n := by
    have hmem : b ∈ (orderBy key l).take n ++ (orderBy key l).drop n := by
      rw [List.take_append_drop]
      exact (perm_orderBy key l).mem_iff.mpr hb
    exact (List.mem_append.mp hmem).resolve_left hb'
  exact (List.pairwise_append.mp hsplit).2.2 a ha b hdrop

/-- A selection that is not full has everything in it. -/
theorem mem_firstBy_of_length_lt {a : α} (h : (firstBy key n l).length < n) (ha : a ∈ l) :
    a ∈ firstBy key n l := by
  rw [length_firstBy] at h
  exact mem_firstBy_of_length_le (by omega) ha

/-- **A row is selected when fewer than `n` rows come before it.** -/
theorem mem_firstBy_iff (hinj : ∀ a ∈ l, ∀ b ∈ l, key a = key b → a = b) {a : α} :
    a ∈ firstBy key n l ↔ a ∈ l ∧ (l.filter fun b => key b < key a).length < n := by
  have hcount : (l.filter fun b => key b < key a).length
      = ((orderBy key l).filter fun b => key b < key a).length :=
    ((perm_orderBy key l).filter _).symm.length_eq
  constructor
  · intro ha
    refine ⟨mem_of_mem_firstBy ha, ?_⟩
    -- only what stands before `a` in the order can be less than it
    obtain ⟨front, back, hsplit⟩ := List.append_of_mem ha
    have horder : orderBy key l = front ++ a :: (back ++ (orderBy key l).drop n) := by
      conv_lhs => rw [← List.take_append_drop n (orderBy key l), ← firstBy, hsplit]
      simp
    have hback : ∀ b ∈ a :: (back ++ (orderBy key l).drop n), ¬key b < key a := by
      have hpair := pairwise_orderBy key l
      rw [horder, List.pairwise_append, List.pairwise_cons] at hpair
      intro b hb
      rcases List.mem_cons.mp hb with rfl | hb
      · exact lt_irrefl _
      · exact not_lt.mpr (hpair.2.1.1 b hb)
    have hnone : (a :: (back ++ (orderBy key l).drop n)).filter (fun b => key b < key a) = [] := by
      rw [List.filter_eq_nil_iff]
      intro b hb
      simpa using hback b hb
    have hlen : (firstBy key n l).length ≤ n := by simp
    rw [hsplit, List.length_append, List.length_cons] at hlen
    rw [hcount, horder, List.filter_append, hnone, List.append_nil]
    have := List.length_filter_le (fun b => decide (key b < key a)) front
    omega
  · rintro ⟨ha, hlt⟩
    by_contra hnot
    -- then `n` rows are selected and each of them is less
    have hfull : ¬(firstBy key n l).length < n := fun h => hnot (mem_firstBy_of_length_lt h ha)
    have hless : ∀ b ∈ firstBy key n l, key b < key a := by
      intro b hb
      refine lt_of_le_of_ne (le_of_mem_of_notMem_firstBy hb ha hnot) fun heq => hnot ?_
      exact hinj b (mem_of_mem_firstBy hb) a ha heq ▸ hb
    have hsub : (firstBy key n l).filter (fun b => key b < key a) = firstBy key n l :=
      List.filter_eq_self.mpr fun b hb => by simpa using hless b hb
    have hle := ((List.take_sublist n (orderBy key l)).filter fun b => key b < key a).length_le
    rw [← firstBy, hsub, ← hcount] at hle
    omega

theorem nodup_map_firstBy {β : Type*} {f : α → β} (h : (l.map f).Nodup) :
    ((firstBy key n l).map f).Nodup := by
  have hperm : ((orderBy key l).map f).Nodup := ((perm_orderBy key l).map f).nodup_iff.mpr h
  exact ((List.take_sublist n _).map f).nodup hperm

/-! ### The first row -/

theorem leastBy_eq_none_iff : leastBy key l = none ↔ l = [] := by
  rw [leastBy, List.head?_eq_none_iff]
  exact ⟨fun h => (h ▸ perm_orderBy key l).symm.eq_nil, fun h => by rw [h]; rfl⟩

theorem mem_of_leastBy {a : α} (h : leastBy key l = some a) : a ∈ l :=
  (perm_orderBy key l).mem_iff.mp (List.mem_of_mem_head? h)

theorem le_of_leastBy {a b : α} (h : leastBy key l = some a) (hb : b ∈ l) : key a ≤ key b := by
  obtain ⟨rest, hrest⟩ : ∃ rest, orderBy key l = a :: rest := by
    rw [leastBy] at h
    exact ⟨_, List.eq_cons_of_mem_head? h⟩
  have hpair := pairwise_orderBy key l
  rw [hrest] at hpair
  have hmem : b ∈ a :: rest := hrest ▸ (perm_orderBy key l).mem_iff.mpr hb
  rcases List.mem_cons.mp hmem with rfl | hb'
  · exact le_rfl
  · exact (List.pairwise_cons.mp hpair).1 b hb'

/-- **The first row is the least one.** With keys that tell rows apart the converse holds too. -/
theorem leastBy_eq_some_iff (hinj : ∀ a ∈ l, ∀ b ∈ l, key a = key b → a = b) {a : α} :
    leastBy key l = some a ↔ a ∈ l ∧ ∀ b ∈ l, key a ≤ key b := by
  constructor
  · intro h
    exact ⟨mem_of_leastBy h, fun b hb => le_of_leastBy h hb⟩
  · rintro ⟨ha, hle⟩
    cases h : leastBy key l with
    | none => rw [leastBy_eq_none_iff] at h; simp [h] at ha
    | some b =>
      have hb := mem_of_leastBy h
      rw [hinj a ha b hb (le_antisymm (hle b hb) (le_of_leastBy h ha))]

theorem ne_of_pairwise (h : l.Pairwise fun a b => key b < key a) {a b : α} (ha : a ∈ l)
    (hb : b ∈ l) (hne : a ≠ b) : key a ≠ key b := by
  have : Std.Symm fun a b : α => key a ≠ key b := ⟨fun _ _ => Ne.symm⟩
  have hpair : l.Pairwise fun a b => key a ≠ key b := h.imp ne_of_gt
  exact hpair.forall ha hb hne

/-- In a table that was filled in descending order, the first row is the one added last. -/
theorem leastBy_eq_getLast? (h : l.Pairwise fun a b => key b < key a) :
    leastBy key l = l.getLast? := by
  rcases List.eq_nil_or_concat l with rfl | ⟨front, last, rfl⟩
  · rfl
  · rw [List.concat_eq_append] at h ⊢
    have hlast : ∀ a ∈ front, key last < key a := fun a ha =>
      (List.pairwise_append.mp h).2.2 a ha last (List.mem_singleton.mpr rfl)
    have hle : ∀ a ∈ front ++ [last], key last ≤ key a := by
      intro a ha
      rcases List.mem_append.mp ha with ha | ha
      · exact (hlast a ha).le
      · rw [List.mem_singleton.mp ha]
    have hinj : ∀ a ∈ front ++ [last], ∀ b ∈ front ++ [last], key a = key b → a = b := by
      intro a ha b hb hab
      by_contra hne
      exact ne_of_pairwise h ha hb hne hab
    rw [List.getLast?_concat]
    exact (leastBy_eq_some_iff hinj).mpr ⟨by simp, hle⟩

end Selection
