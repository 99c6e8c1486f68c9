import Mathlib.Data.List.Induction

/-!
# Labelled transition systems and their runs

A system is a set of initial states and a labelled step relation. Runs are finite and carry
their labels in order, so a statement about a run can speak of the states it passes through and
of what happened on the way.

## Two induction principles

`Run.induction` proves a property of the labels *and* the state reached together. That is what a
history invariant needs: "the labels seen so far relate to the current state like this". Most
safety statements only speak of the state, and `Reachable.induction` is the special case for
them.

Invariants are preserved forwards, so both peel the last step off a run. `Run.split` cuts a run at
any of its events, which is how a statement about "some step of the run" is reduced to a statement
about one step from a reachable state.

## Restriction

`restrict` keeps the steps that meet a condition. A result about the restricted system is a
result about exactly the runs whose every step meets it.

`OnceSince` puts the two together: a step of the run, and what has held in every state since.
-/

/-- States and labelled steps. -/
structure TransitionSystem (σ ε : Type*) where
  /-- The states a run may start in. -/
  init : σ → Prop
  /-- `step s e t`: in state `s` the event `e` leads to `t`. -/
  step : σ → ε → σ → Prop

namespace TransitionSystem

variable {σ ε : Type*} {M : TransitionSystem σ ε}

/-- `M.Path s es t`: the events `es`, in order, lead from `s` to `t`. -/
def Path (M : TransitionSystem σ ε) : σ → List ε → σ → Prop
  | s, [], t => s = t
  | s, e :: es, t => ∃ u, M.step s e u ∧ Path M u es t

/-- A path from an initial state. -/
def Run (M : TransitionSystem σ ε) (es : List ε) (t : σ) : Prop := ∃ s, M.init s ∧ M.Path s es t

/-- A state some run ends in. -/
def Reachable (M : TransitionSystem σ ε) (t : σ) : Prop := ∃ es, M.Run es t

@[simp] theorem path_nil {s t : σ} : M.Path s [] t ↔ s = t := Iff.rfl

@[simp] theorem path_cons {s t : σ} {e : ε} {es : List ε} :
    M.Path s (e :: es) t ↔ ∃ u, M.step s e u ∧ M.Path u es t := Iff.rfl

/-- **Cutting a path.** -/
theorem path_append {s u : σ} {es es' : List ε} :
    M.Path s (es ++ es') u ↔ ∃ t, M.Path s es t ∧ M.Path t es' u := by
  induction es generalizing s with
  | nil => simp
  | cons e es ih =>
    simp only [List.cons_append, path_cons, ih]
    constructor
    · rintro ⟨v, hstep, t, ht, ht'⟩
      exact ⟨t, ⟨v, hstep, ht⟩, ht'⟩
    · rintro ⟨t, ⟨v, hstep, ht⟩, ht'⟩
      exact ⟨v, hstep, t, ht, ht'⟩

theorem path_snoc {s u : σ} {es : List ε} {e : ε} :
    M.Path s (es ++ [e]) u ↔ ∃ t, M.Path s es t ∧ M.step t e u := by
  simp [path_append]

theorem Path.trans {s t u : σ} {es es' : List ε} (h : M.Path s es t) (h' : M.Path t es' u) :
    M.Path s (es ++ es') u :=
  path_append.mpr ⟨t, h, h'⟩

theorem Run.append {s t : σ} {es es' : List ε} (h : M.Run es s) (h' : M.Path s es' t) :
    M.Run (es ++ es') t := by
  obtain ⟨s₀, h₀, hp⟩ := h
  exact ⟨s₀, h₀, hp.trans h'⟩

theorem Run.snoc {s t : σ} {es : List ε} {e : ε} (h : M.Run es s) (hstep : M.step s e t) :
    M.Run (es ++ [e]) t :=
  h.append ⟨t, hstep, rfl⟩

theorem Run.reachable {s : σ} {es : List ε} (h : M.Run es s) : M.Reachable s := ⟨es, h⟩

theorem Reachable.path {s t : σ} {es : List ε} (h : M.Reachable s) (hp : M.Path s es t) :
    M.Reachable t := by
  obtain ⟨es', hrun⟩ := h
  exact ⟨_, hrun.append hp⟩

theorem Reachable.step {s t : σ} {e : ε} (h : M.Reachable s) (hstep : M.step s e t) :
    M.Reachable t :=
  h.path (path_cons.mpr ⟨t, hstep, path_nil.mpr rfl⟩)

/-- **Cutting a run at one of its events.** -/
theorem Run.split {u : σ} {es es' : List ε} {e : ε} (h : M.Run (es ++ e :: es') u) :
    ∃ t t', M.Run es t ∧ M.step t e t' ∧ M.Path t' es' u := by
  obtain ⟨s, hs, hp⟩ := h
  obtain ⟨t, ht, t', hstep, htail⟩ := path_append.mp hp
  exact ⟨t, t', ⟨s, hs, ht⟩, hstep, htail⟩

/-- Every event of a path is a step from a state on the path. -/
theorem Path.exists_of_mem {s u : σ} {es : List ε} {e : ε} (h : M.Path s es u) (he : e ∈ es) :
    ∃ before t t', M.Path s before t ∧ M.step t e t' := by
  obtain ⟨before, after, rfl⟩ := List.append_of_mem he
  obtain ⟨t, ht, t', hstep, -⟩ := path_append.mp h
  exact ⟨before, t, t', ht, hstep⟩

/-! ### Induction along runs -/

/-- **History invariants.** A property of the events seen and the state reached, established
initially and kept by every step, holds along every run. -/
theorem Run.induction {P : List ε → σ → Prop} (hinit : ∀ s, M.init s → P [] s)
    (hstep : ∀ es s e t, M.Run es s → P es s → M.step s e t → P (es ++ [e]) t)
    {es : List ε} {t : σ} (h : M.Run es t) : P es t := by
  obtain ⟨s, hs, hp⟩ := h
  induction es using List.reverseRecOn generalizing t with
  | nil => exact path_nil.mp hp ▸ hinit s hs
  | append_singleton es e ih =>
    obtain ⟨u, hu, hst⟩ := path_snoc.mp hp
    exact hstep es u e t ⟨s, hs, hu⟩ (ih hu) hst

/-- **State invariants.** -/
theorem Reachable.induction {P : σ → Prop} (hinit : ∀ s, M.init s → P s)
    (hstep : ∀ s e t, M.Reachable s → P s → M.step s e t → P t) {t : σ} (h : M.Reachable t) :
    P t := by
  obtain ⟨es, hrun⟩ := h
  exact hrun.induction (P := fun _ => P) hinit
    fun es s e t hr hP hst => hstep s e t hr.reachable hP hst

/-- A reflexive and transitive relation that every step from a reachable state respects relates
the two ends of every path from a reachable state. -/
theorem Path.rel {R : σ → σ → Prop} (hrefl : ∀ s, R s s) (htrans : ∀ s t u, R s t → R t u → R s u)
    (hstep : ∀ s e t, M.Reachable s → M.step s e t → R s t) {s t : σ} {es : List ε}
    (hs : M.Reachable s) (h : M.Path s es t) : R s t := by
  induction es generalizing s with
  | nil => exact path_nil.mp h ▸ hrefl s
  | cons e es ih =>
    obtain ⟨u, hst, hp⟩ := path_cons.mp h
    exact htrans _ _ _ (hstep _ _ _ hs hst) (ih (hs.step hst) hp)

/-- A property that holds at the start of a path and is kept by each of its events. -/
theorem Path.invariant {I : σ → Prop} {s t : σ} {es : List ε} (hs : M.Reachable s)
    (h : M.Path s es t) (hI : I s)
    (hstep : ∀ s e t, M.Reachable s → e ∈ es → I s → M.step s e t → I t) : I t := by
  induction es generalizing s with
  | nil => exact path_nil.mp h ▸ hI
  | cons e es ih =>
    obtain ⟨u, hst, hp⟩ := path_cons.mp h
    refine ih (hs.step hst) hp (hstep s e u hs List.mem_cons_self hI hst) ?_
    intro s e' t hs' he'
    exact hstep s e' t hs' (List.mem_cons_of_mem _ he')

/-! ### What a run has passed -/

/-- Some step of the run: `R` relates the state before it and its event. -/
def Once (M : TransitionSystem σ ε) (es : List ε) (t : σ) (R : σ → ε → Prop) : Prop :=
  ∃ before e after s s', es = before ++ e :: after ∧ M.Run before s ∧ M.step s e s' ∧
    M.Path s' after t ∧ R s e

theorem Run.once_last {es : List ε} {s t : σ} {e : ε} {R : σ → ε → Prop} (h : M.Run es s)
    (hstep : M.step s e t) (hR : R s e) : M.Once (es ++ [e]) t R :=
  ⟨es, e, [], s, t, rfl, h, hstep, rfl, hR⟩

theorem Once.snoc {es : List ε} {s t : σ} {e : ε} {R : σ → ε → Prop} (h : M.Once es s R)
    (hstep : M.step s e t) : M.Once (es ++ [e]) t R := by
  obtain ⟨before, e', after, u, u', rfl, hrun, hu, hpath, hR⟩ := h
  refine ⟨before, e', after ++ [e], u, u', ?_, hrun, hu, ?_, hR⟩
  · rw [List.append_assoc, List.cons_append]
  · exact path_snoc.mpr ⟨s, hpath, hstep⟩

theorem Once.imp {es : List ε} {t : σ} {R R' : σ → ε → Prop} (h : M.Once es t R)
    (himp : ∀ s e, R s e → R' s e) : M.Once es t R' := by
  obtain ⟨before, e, after, s, s', hes, hrun, hstep, hpath, hR⟩ := h
  exact ⟨before, e, after, s, s', hes, hrun, hstep, hpath, himp s e hR⟩

/-- Steps of the run that meet the conditions, the latest one first. -/
def Passed (M : TransitionSystem σ ε) : List (σ → ε → Prop) → List ε → σ → Prop
  | [], es, t => M.Run es t
  | R :: Rs, es, t => ∃ before e after s s', es = before ++ e :: after ∧ M.Passed Rs before s ∧
      M.step s e s' ∧ M.Path s' after t ∧ R s e

theorem Passed.last {Rs : List (σ → ε → Prop)} {es : List ε} {s t : σ} {e : ε} {R : σ → ε → Prop}
    (h : M.Passed Rs es s) (hstep : M.step s e t) (hR : R s e) :
    M.Passed (R :: Rs) (es ++ [e]) t :=
  ⟨es, e, [], s, t, rfl, h, hstep, rfl, hR⟩

theorem Run.passed {es : List ε} {s t : σ} {e : ε} {R : σ → ε → Prop} (h : M.Run es s)
    (hstep : M.step s e t) (hR : R s e) : M.Passed [R] (es ++ [e]) t :=
  ⟨es, e, [], s, t, rfl, h, hstep, rfl, hR⟩

theorem Passed.snoc {Rs : List (σ → ε → Prop)} {es : List ε} {s t : σ} {e : ε}
    (h : M.Passed Rs es s) (hstep : M.step s e t) : M.Passed Rs (es ++ [e]) t := by
  cases Rs with
  | nil => exact Run.snoc h hstep
  | cons R Rs =>
    obtain ⟨before, e', after, u, u', rfl, hpassed, hu, hpath, hR⟩ := h
    refine ⟨before, e', after ++ [e], u, u', ?_, hpassed, hu, path_snoc.mpr ⟨s, hpath, hstep⟩, hR⟩
    rw [List.append_assoc, List.cons_append]

theorem Passed.run {Rs : List (σ → ε → Prop)} {es : List ε} {t : σ} (h : M.Passed Rs es t) :
    M.Run es t := by
  induction Rs generalizing es t with
  | nil => exact h
  | cons R Rs ih =>
    obtain ⟨before, e, after, u, u', rfl, hpassed, hu, hpath, -⟩ := h
    exact (ih hpassed).append ⟨u', hu, hpath⟩

/-- Every condition is met by an event of the run. -/
theorem Passed.exists_of_mem {Rs : List (σ → ε → Prop)} {es : List ε} {t : σ}
    (h : M.Passed Rs es t) {R : σ → ε → Prop} (hR : R ∈ Rs) : ∃ e ∈ es, ∃ s, R s e := by
  induction Rs generalizing es t with
  | nil => exact nomatch hR
  | cons R' Rs ih =>
    obtain ⟨before, e, after, u, u', rfl, hpassed, -, -, hR'⟩ := h
    rcases List.mem_cons.mp hR with rfl | hR
    · exact ⟨e, List.mem_append_cons_self, u, hR'⟩
    · obtain ⟨e', he', hmet⟩ := ih hpassed hR
      exact ⟨e', List.mem_append_left _ he', hmet⟩

/-! ### Restricting the steps -/

/-- The system with only the steps that meet `cond`, a condition on the state before the step and
on the event. -/
def restrict (M : TransitionSystem σ ε) (cond : σ → ε → Prop) : TransitionSystem σ ε where
  init := M.init
  step s e t := cond s e ∧ M.step s e t

theorem Path.of_restrict {cond : σ → ε → Prop} {s t : σ} {es : List ε}
    (h : (M.restrict cond).Path s es t) : M.Path s es t := by
  induction es generalizing s with
  | nil => exact h
  | cons e es ih =>
    obtain ⟨u, hst, hp⟩ := path_cons.mp h
    exact ⟨u, hst.2, ih hp⟩

/-- A path whose events meet the condition in every state. -/
theorem Path.restrict {cond : σ → ε → Prop} {s t : σ} {es : List ε} (h : M.Path s es t)
    (hcond : ∀ e ∈ es, ∀ s, cond s e) : (M.restrict cond).Path s es t := by
  induction es generalizing s with
  | nil => exact h
  | cons e es ih =>
    obtain ⟨u, hst, hp⟩ := path_cons.mp h
    exact ⟨u, ⟨hcond e List.mem_cons_self s, hst⟩,
      ih hp fun e he => hcond e (List.mem_cons_of_mem _ he)⟩

theorem Run.of_restrict {cond : σ → ε → Prop} {t : σ} {es : List ε}
    (h : (M.restrict cond).Run es t) : M.Run es t := by
  obtain ⟨s, hs, hp⟩ := h
  exact ⟨s, hs, hp.of_restrict⟩

theorem Reachable.of_restrict {cond : σ → ε → Prop} {t : σ}
    (h : (M.restrict cond).Reachable t) : M.Reachable t := by
  obtain ⟨es, hrun⟩ := h
  exact ⟨es, hrun.of_restrict⟩

/-- Some step of the run, with `R` for the state before it and its event, and `I` in every state
since. -/
def OnceSince (M : TransitionSystem σ ε) (es : List ε) (t : σ) (R : σ → ε → Prop) (I : σ → Prop) :
    Prop :=
  ∃ before e after s s', es = before ++ e :: after ∧ M.Run before s ∧ M.step s e s' ∧
    (M.restrict fun u _ => I u).Path s' after t ∧ I t ∧ R s e

theorem Run.onceSince_last {es : List ε} {s t : σ} {e : ε} {R : σ → ε → Prop} {I : σ → Prop}
    (h : M.Run es s) (hstep : M.step s e t) (hR : R s e) (hI : I t) :
    M.OnceSince (es ++ [e]) t R I :=
  ⟨es, e, [], s, t, rfl, h, hstep, rfl, hI, hR⟩

theorem OnceSince.snoc {es : List ε} {s t : σ} {e : ε} {R : σ → ε → Prop} {I : σ → Prop}
    (h : M.OnceSince es s R I) (hstep : M.step s e t) (ht : I t) :
    M.OnceSince (es ++ [e]) t R I := by
  obtain ⟨before, e', after, u, u', rfl, hrun, hu, hpath, hI, hR⟩ := h
  refine ⟨before, e', after ++ [e], u, u', ?_, hrun, hu, ?_, ht, hR⟩
  · rw [List.append_assoc, List.cons_append]
  · exact path_snoc.mpr ⟨s, hpath, hI, hstep⟩

theorem OnceSince.once {es : List ε} {t : σ} {R : σ → ε → Prop} {I : σ → Prop}
    (h : M.OnceSince es t R I) : M.Once es t R := by
  obtain ⟨before, e, after, s, s', hes, hrun, hstep, hpath, -, hR⟩ := h
  exact ⟨before, e, after, s, s', hes, hrun, hstep, hpath.of_restrict, hR⟩

/-- What holds of the first step may be read off the way from there. -/
theorem OnceSince.imp {es : List ε} {t : σ} {R R' : σ → ε → Prop} {I : σ → Prop}
    (h : M.OnceSince es t R I)
    (himp : ∀ before s e after s', M.Run before s → M.step s e s' → M.Path s' after t → R s e →
      R' s e) : M.OnceSince es t R' I := by
  obtain ⟨before, e, after, s, s', hes, hrun, hstep, hpath, hI, hR⟩ := h
  exact ⟨before, e, after, s, s', hes, hrun, hstep, hpath, hI,
    himp before s e after s' hrun hstep hpath.of_restrict hR⟩

end TransitionSystem
