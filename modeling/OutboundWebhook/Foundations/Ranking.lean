import OutboundWebhook.Foundations.TransitionSystem

/-!
# Rounds, and measures that bound them

Some steps of a system are rounds, and the others are calm. A measure that no calm step raises and
that every round lowers, until it is zero, is zero after as many rounds as it was large. How the
steps interleave does not matter.

That there are such paths is a second question, and `exists_rounds` answers it: a round that is
possible in every reachable state can be repeated.
-/

namespace TransitionSystem

variable {σ ε : Type*} {M : TransitionSystem σ ε} {calm round : σ → ε → σ → Prop}

/-- `M.Rounds calm round n s t`: calm steps and `n` rounds, in any order, lead from `s` to `t`. -/
inductive Rounds (M : TransitionSystem σ ε) (calm round : σ → ε → σ → Prop) : ℕ → σ → σ → Prop
  | refl (s : σ) : Rounds M calm round 0 s s
  | calm {n : ℕ} {s t u : σ} {e : ε} (hstep : M.step s e t) (hcalm : calm s e t)
      (h : Rounds M calm round n t u) : Rounds M calm round n s u
  | round {n : ℕ} {s t u : σ} {e : ε} (hstep : M.step s e t) (hround : round s e t)
      (h : Rounds M calm round n t u) : Rounds M calm round (n + 1) s u

/-- **A ranking.** The measure goes down by one with each round, and stays at zero. -/
theorem Rounds.measure_le {μ : σ → ℕ}
    (hcalm : ∀ s e t, M.Reachable s → M.step s e t → calm s e t → μ t ≤ μ s)
    (hround : ∀ s e t, M.Reachable s → M.step s e t → round s e t → μ t ≤ μ s - 1)
    {n : ℕ} {s t : σ} (h : M.Rounds calm round n s t) (hs : M.Reachable s) : μ t ≤ μ s - n := by
  induction h with
  | refl => exact Nat.le_refl _
  | calm hstep hc _ ih =>
    have hle := hcalm _ _ _ hs hstep hc
    have hrest := ih (hs.step hstep)
    omega
  | round hstep hr _ ih =>
    have hle := hround _ _ _ hs hstep hr
    have hrest := ih (hs.step hstep)
    omega

/-- A round that is possible in every reachable state can be repeated. -/
theorem exists_rounds (hround : ∀ s, M.Reachable s → ∃ e t, M.step s e t ∧ round s e t) {s : σ}
    (hs : M.Reachable s) (n : ℕ) : ∃ t, M.Rounds calm round n s t := by
  induction n generalizing s with
  | zero => exact ⟨s, .refl s⟩
  | succ n ih =>
    obtain ⟨e, t, hstep, hr⟩ := hround s hs
    obtain ⟨u, h⟩ := ih (hs.step hstep)
    exact ⟨u, .round hstep hr h⟩

end TransitionSystem
