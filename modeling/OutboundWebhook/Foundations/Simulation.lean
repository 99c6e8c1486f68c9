import OutboundWebhook.Foundations.TransitionSystem

/-!
# Forward simulations

`M` is simulated by `N` when each step of `M` is matched by a path of `N` that shows the same.
`shown` says what an observer sees of an event, `none` being an event that nobody sees. The
matching path may be empty, so `N` may stutter, and it may take steps that nobody sees.

## What a simulation carries over

A run of `M` is matched by a run of `N` with the same observations in the same order
(`Simulation.run`). So whatever is proved of the observations of `N`, or of a part of its states
that the relation keeps, is proved of `M`.
-/

namespace TransitionSystem

variable {σ τ ε δ ω : Type*} {M : TransitionSystem σ ε} {N : TransitionSystem τ δ}
  {R : σ → τ → Prop} {shown : ε → Option ω} {shown' : δ → Option ω}

/-- Related states match step by step. -/
structure Simulation (M : TransitionSystem σ ε) (N : TransitionSystem τ δ) (R : σ → τ → Prop)
    (shown : ε → Option ω) (shown' : δ → Option ω) : Prop where
  init : ∀ s, M.init s → ∃ t, N.init t ∧ R s t
  step : ∀ s e s' t, M.step s e s' → R s t →
    ∃ es t', N.Path t es t' ∧ R s' t' ∧ es.filterMap shown' = (shown e).toList

/-- A path is matched by a path that shows the same. -/
theorem Simulation.path (h : Simulation M N R shown shown') {s s' : σ} {t : τ} {es : List ε}
    (hpath : M.Path s es s') (hR : R s t) :
    ∃ es' t', N.Path t es' t' ∧ R s' t' ∧ es'.filterMap shown' = es.filterMap shown := by
  induction es generalizing s t with
  | nil =>
    obtain rfl := path_nil.mp hpath
    exact ⟨[], t, rfl, hR, rfl⟩
  | cons e es ih =>
    obtain ⟨u, hstep, hrest⟩ := path_cons.mp hpath
    obtain ⟨first, v, hfirst, hv, hshown⟩ := h.step s e u t hstep hR
    obtain ⟨rest, t', hpath', hR', hshown'⟩ := ih hrest hv
    refine ⟨first ++ rest, t', hfirst.trans hpath', hR', ?_⟩
    rw [List.filterMap_append, hshown, hshown', List.filterMap_cons]
    cases shown e <;> rfl

/-- **A run is matched by a run that shows the same.** -/
theorem Simulation.run (h : Simulation M N R shown shown') {s : σ} {es : List ε}
    (hrun : M.Run es s) :
    ∃ es' t, N.Run es' t ∧ R s t ∧ es'.filterMap shown' = es.filterMap shown := by
  obtain ⟨s₀, h₀, hpath⟩ := hrun
  obtain ⟨t₀, hinit, hR⟩ := h.init s₀ h₀
  obtain ⟨es', t, hpath', hR', hshown⟩ := h.path hpath hR
  exact ⟨es', t, ⟨t₀, hinit, hpath'⟩, hR', hshown⟩

theorem Simulation.reachable (h : Simulation M N R shown shown') {s : σ} (hs : M.Reachable s) :
    ∃ t, N.Reachable t ∧ R s t := by
  obtain ⟨es, hrun⟩ := hs
  obtain ⟨es', t, hrun', hR, -⟩ := h.run hrun
  exact ⟨t, ⟨es', hrun'⟩, hR⟩

end TransitionSystem
