import OutboundWebhook.History
import OutboundWebhook.Reference
import Mathlib.Algebra.Order.BigOperators.Group.List
import Mathlib.Tactic.LinearCombination

/-!
# Where the attempts of a delivery go

A delivery may be claimed `max_attempts` times in each cycle. This module keeps the account. In any
run, of the attempts that were granted — those of the first cycle, and those of each replay — a
part has been claimed, a part has been forfeited because a cycle ended with attempts to spare, and
a part is left. Nothing is lost: an expired lease, a stopped worker, a runtime failure and an
outcome that comes too late cost no more than the attempt they belong to.

## Main results

* `Observed.budget` — one transaction, seen from one delivery
* `attempt_budget` — the account of a whole run
-/

namespace OutboundWebhook

variable {P : Platform}

/-- Nothing more happens to the delivery unless it is replayed. -/
def DeliveryRow.Settled (row : DeliveryRow) : Prop :=
  row.status = .delivered ∨ row.status = .deadLetter

instance (row : DeliveryRow) : Decidable row.Settled := inferInstanceAs (Decidable (_ ∨ _))

/-- The attempts that are left in the current cycle. -/
def DeliveryRow.left (row : DeliveryRow) : ℤ :=
  if row.Settled then 0 else row.maxAttempts - row.attempts

/-- The outcome ends the cycle. -/
def OutcomeCall.ends (call : OutcomeCall) : Bool :=
  call.status == .delivered || call.status == .deadLetter

/-- The attempts at which a cycle of the delivery was ended by an outcome. -/
def endingsOf (id : String) (labels : List (Label P)) : List ℤ :=
  labels.filterMap fun label =>
    ((label.observation.outcomeOf id).filter OutcomeCall.ends).map fun call => call.receipt.attempt

/-- The attempts that these endings have left unused. -/
def forfeited (maxAttempts : ℤ) (endings : List ℤ) : ℤ :=
  (endings.map fun attempt => maxAttempts - attempt).sum

theorem endingsOf_snoc (id : String) (labels : List (Label P)) (label : Label P) :
    endingsOf id (labels ++ [label])
      = endingsOf id labels ++ (((label.observation.outcomeOf id).filter OutcomeCall.ends).map
          fun call => call.receipt.attempt).toList := by
  rw [endingsOf, List.filterMap_append, ← endingsOf, List.filterMap_cons, List.filterMap_nil]
  cases ((label.observation.outcomeOf id).filter OutcomeCall.ends).map
    fun call => call.receipt.attempt <;> rfl

@[simp] theorem forfeited_append (maxAttempts : ℤ) (endings endings' : List ℤ) :
    forfeited maxAttempts (endings ++ endings')
      = forfeited maxAttempts endings + forfeited maxAttempts endings' := by
  simp [forfeited]

/-! ### One transaction -/

theorem OutcomeCall.ends_iff {call : OutcomeCall} :
    call.ends ↔ call.status = .delivered ∨ call.status = .deadLetter := by
  simp [OutcomeCall.ends]

theorem DeliveryRow.left_of_not_settled {row : DeliveryRow} (h : ¬row.Settled) :
    row.left = row.maxAttempts - row.attempts :=
  if_neg h

theorem DeliveryRow.left_of_settled {row : DeliveryRow} (h : row.Settled) : row.left = 0 :=
  if_pos h

theorem DeliveryRow.not_settled_of_delivering {row : DeliveryRow} (h : row.status = .delivering) :
    ¬row.Settled := by
  simp [DeliveryRow.Settled, h]

theorem DeliveryRow.not_settled_of_waiting {row : DeliveryRow}
    (h : row.status = .queued ∨ row.status = .retryScheduled) : ¬row.Settled := by
  rcases h with h | h <;> simp [DeliveryRow.Settled, h]

/-- **The account of one transaction.** What is left afterwards, what was claimed and what was
forfeited is what was left before and what a replay has granted. -/
theorem Observed.budget {begins : Timestamptz} {id : String} {stored : Option Stored} {l l' : Life}
    (h : Observed begins id stored l l') (hid : l.row.deliveryId = id) (hsound : l.Sound) :
    ((stored.bind (Stored.claimOf id)).toList.length : ℤ)
      + forfeited l.row.maxAttempts (((stored.bind (Stored.outcomeOf id)).filter
          OutcomeCall.ends).map fun call => call.receipt.attempt).toList
      + l'.row.left
      = l.row.left + l.row.maxAttempts * (l'.row.replayCount - l.row.replayCount) := by
  cases h with
  | still hclaim houtcome =>
    rw [hclaim, houtcome]
    simp [forfeited]
  | expired hother hexpired hleft =>
    rw [Option.bind_some, hother]
    simp [forfeited, Stored.outcomeOf]
  | retired hother hexpired hlast =>
    obtain ⟨-, hstatus, -⟩ := DeliveryRow.isExpired_iff.mp hexpired
    have hbusy := hsound.row.started (.inl hstatus)
    rw [Option.bind_some, hother, DeliveryRow.left_of_settled (.inr rfl),
      DeliveryRow.left_of_not_settled (DeliveryRow.not_settled_of_delivering hstatus)]
    simp [forfeited, Stored.outcomeOf, retireAssignment, DeliveryRow.current]
    omega
  | claimed leaseSeconds hwaiting hleft =>
    obtain ⟨hstatus, -⟩ := DeliveryRow.isWaiting_iff.mp hwaiting
    rw [Option.bind_some, Stored.claimOf_of_eq hid,
      DeliveryRow.left_of_not_settled (DeliveryRow.not_settled_of_delivering rfl),
      DeliveryRow.left_of_not_settled (DeliveryRow.not_settled_of_waiting hstatus)]
    simp [forfeited, Stored.outcomeOf, claimAssignment, DeliveryRow.current]
    omega
  | reclaimed leaseSeconds hexpired hleft =>
    obtain ⟨-, hstatus, -⟩ := DeliveryRow.isExpired_iff.mp hexpired
    rw [Option.bind_some, Stored.claimOf_of_eq hid,
      DeliveryRow.left_of_not_settled (DeliveryRow.not_settled_of_delivering rfl),
      DeliveryRow.left_of_not_settled (DeliveryRow.not_settled_of_delivering hstatus)]
    simp [forfeited, Stored.outcomeOf, claimAssignment, DeliveryRow.current]
    omega
  | @recorded call _ hcall hfenced =>
    obtain ⟨-, hnumber, hstatus, -⟩ := DeliveryRow.isFenced_iff.mp hfenced
    have hattempt : call.receipt.attempt = l.row.attempts := (congrArg Prod.snd hnumber).symm
    rw [Option.bind_some, Option.bind_some, Stored.outcomeOf_of_eq hcall,
      DeliveryRow.left_of_not_settled (DeliveryRow.not_settled_of_delivering hstatus)]
    have hsettled : (l.row.assign (outcomeAssignment begins call.status call.nextAvailableAt
        l.row)).Settled ↔ call.ends := OutcomeCall.ends_iff.symm
    by_cases hends : call.ends
    · rw [DeliveryRow.left_of_settled (hsettled.mpr hends), Option.filter_some, if_pos hends]
      simp [forfeited, Stored.claimOf, outcomeAssignment, DeliveryRow.current, hattempt]
    · rw [DeliveryRow.left_of_not_settled (mt hsettled.mp hends), Option.filter_some, if_neg hends]
      simp [forfeited, Stored.claimOf, outcomeAssignment, DeliveryRow.current]
  | replayed hreplayable =>
    obtain ⟨-, hstatus, -⟩ := DeliveryRow.isReplayable_iff.mp hreplayable
    have hsettled : l.row.Settled := .inr hstatus
    rw [DeliveryRow.left_of_settled hsettled,
      DeliveryRow.left_of_not_settled (DeliveryRow.not_settled_of_waiting (.inl rfl))]
    simp [forfeited, Stored.claimOf, Stored.outcomeOf, replayAssignment]

/-- A cycle that an outcome ends has had no more attempts than were granted. -/
theorem Observed.ending_le {begins : Timestamptz} {id : String} {stored : Option Stored}
    {l l' : Life} (h : Observed begins id stored l l') (hsound : l.Sound) {call : OutcomeCall}
    (hcall : stored.bind (Stored.outcomeOf id) = some call) :
    call.receipt.attempt ≤ l.row.maxAttempts := by
  cases h with
  | still hclaim houtcome => exact absurd hcall (by simp [houtcome])
  | @recorded call' _ hid hfenced =>
    obtain ⟨-, hnumber, -⟩ := DeliveryRow.isFenced_iff.mp hfenced
    have hsame : (Stored.outcome call' (.ok ())).outcomeOf id = some call' :=
      Stored.outcomeOf_of_eq hid
    rw [Option.bind_some, hsame, Option.some.injEq] at hcall
    subst hcall
    have hattempt : l.row.attempts = call'.receipt.attempt := congrArg Prod.snd hnumber
    rw [← hattempt]
    exact hsound.row.attempts_le
  | _ => cases hcall

/-! ### A whole run -/

/-- The account of a delivery. -/
structure Balanced (id : String) (labels : List (Label P)) (row : DeliveryRow) : Prop where
  account : ((claimsOf id labels).length : ℤ) + forfeited row.maxAttempts (endingsOf id labels)
    + row.left = row.maxAttempts * (1 + row.replayCount)
  endings : ∀ attempt ∈ endingsOf id labels, attempt ≤ row.maxAttempts

/-- No delivery is without its account. -/
def Budgeted (id : String) (labels : List (Label P)) (db : Db) : Prop :=
  (db.life id = none → claimsOf id labels = [] ∧ endingsOf id labels = []) ∧
    ∀ l, db.life id = some l → Balanced id labels l.row

theorem Balanced.step {id : String} {labels : List (Label P)} {label : Label P} {l l' : Life}
    (h : Balanced id labels l.row)
    (hobserved : Observed label.begins id label.observation.stored l l')
    (hid : l.row.deliveryId = id) (hsound : l.Sound)
    (hmax : l'.row.maxAttempts = l.row.maxAttempts) : Balanced id (labels ++ [label]) l'.row := by
  refine ⟨?_, ?_⟩
  · have hbefore := h.account
    have hbudget := hobserved.budget hid hsound
    have hlength : ((label.observation.claimOf id).map DeliveryRecord.number).toList.length
        = (label.observation.claimOf id).toList.length := by
      cases label.observation.claimOf id <;> rfl
    rw [claimsOf_snoc, endingsOf_snoc, List.length_append, forfeited_append, hlength, hmax,
      Observation.claimOf, Observation.outcomeOf, Nat.cast_add]
    linear_combination hbefore + hbudget
  · intro attempt hattempt
    rw [hmax]
    rw [endingsOf_snoc] at hattempt
    rcases List.mem_append.mp hattempt with hold | hnew
    · exact h.endings attempt hold
    · obtain ⟨call, hcall, rfl⟩ := Option.map_eq_some_iff.mp (Option.mem_toList.mp hnew)
      exact hobserved.ending_le hsound (Option.filter_eq_some_iff.mp hcall).1

theorem Budgeted.step {id : String} {labels : List (Label P)} {label : Label P} {s t : Sys P}
    (hinv : s.Inv) (h : Budgeted id labels s.db) (hstep : Step s label t) :
    Budgeted id (labels ++ [label]) t.db := by
  have hrefines := hstep.writes.refines hinv
  cases hl : s.db.life id with
  | none =>
    obtain ⟨hclaims, hendings⟩ := h.1 hl
    have hclaims' : claimsOf id (labels ++ [label]) = [] := by
      rw [claimsOf_snoc, hclaims, Observation.claimOf, hstep.writes.claimOf_eq_none hinv hl]
      rfl
    have hendings' : endingsOf id (labels ++ [label]) = [] := by
      rw [endingsOf_snoc, hendings, Observation.outcomeOf, hstep.writes.outcomeOf_eq_none hl]
      rfl
    refine ⟨fun _ => ⟨hclaims', hendings'⟩, ?_⟩
    intro l' hl'
    obtain ⟨plugin, request, delivery, begins, -, rfl⟩ := hrefines.born id l' hl hl'
    refine ⟨?_, by simp [hendings']⟩
    rw [hclaims', hendings',
      DeliveryRow.left_of_not_settled (DeliveryRow.not_settled_of_waiting (.inl rfl))]
    simp [forfeited, NewDelivery.toRow]
  | some l =>
    obtain ⟨l', hl', hobserved⟩ := hrefines.moves id l hl
    refine ⟨fun hnone => absurd hl' (by simp [hnone]), ?_⟩
    intro l'' hl''
    rw [hl', Option.some.injEq] at hl''
    subst hl''
    obtain ⟨l₁, hl₁, hevolves⟩ := hrefines.evolves id l hl
    rw [hl', Option.some.injEq] at hl₁
    subst hl₁
    exact (h.2 l hl).step hobserved (Db.deliveryId_of_life hl) (hinv.sound id l hl)
      (congrArg Content.maxAttempts hevolves.content)

theorem budgeted {labels : List (Label P)} {t : Sys P} (hrun : (system P).Run labels t)
    (id : String) : Budgeted id labels t.db := by
  refine hrun.induction (P := fun labels t => Budgeted id labels t.db) ?_
    fun labels s label t hs h hstep => h.step (reachable_inv hs.reachable) hstep
  intro s hinit
  exact ⟨fun _ => ⟨rfl, rfl⟩, fun l hl => by simp [life_of_init hinit] at hl⟩

/-- Every request was sent for a claim. -/
theorem length_postsOf_le {labels : List (Label P)} {t : Sys P} (hrun : (system P).Run labels t)
    (id : String) : (postsOf id labels).length ≤ (claimsOf id labels).length := by
  have hcount := count_postsOf_le hrun id
  exact (List.subperm_ext_iff.mpr fun number _ => hcount number).length_le

theorem forfeited_nonneg {maxAttempts : ℤ} {endings : List ℤ}
    (h : ∀ attempt ∈ endings, attempt ≤ maxAttempts) : 0 ≤ forfeited maxAttempts endings := by
  refine List.sum_nonneg ?_
  intro left hleft
  obtain ⟨attempt, hattempt, rfl⟩ := List.mem_map.mp hleft
  have := h attempt hattempt
  omega

/-- **The account of a run.** For each delivery, the attempts that were claimed, those that were
forfeited at the end of a cycle and those that are left are the attempts of all its cycles. So it
was claimed, and its request sent, at most that often, and exactly that often if no cycle was
ended early and none is left. -/
theorem attempt_budget (P : Platform) {labels : List (Label P)} {t : Sys P}
    (hrun : (system P).Run labels t) {row : DeliveryRow} (hrow : row ∈ t.db.deliveries) :
    ((claimsOf row.deliveryId labels).length : ℤ)
        + forfeited row.maxAttempts (endingsOf row.deliveryId labels) + row.left
        = row.maxAttempts * (1 + row.replayCount) ∧
      0 ≤ forfeited row.maxAttempts (endingsOf row.deliveryId labels) ∧ 0 ≤ row.left ∧
      (postsOf row.deliveryId labels).length ≤ (claimsOf row.deliveryId labels).length ∧
      ((postsOf row.deliveryId labels).length : ℤ) ≤ row.maxAttempts * (1 + row.replayCount) := by
  have hlife := Db.life_of_mem hrow
  have hbalanced : Balanced row.deliveryId labels row := (budgeted hrun row.deliveryId).2 _ hlife
  have hsound : row.Sound := ((reachable_inv hrun.reachable).sound _ _ hlife).row
  have haccount := hbalanced.account
  have hforfeited := forfeited_nonneg hbalanced.endings
  have hposts := length_postsOf_le hrun row.deliveryId
  have hleft : 0 ≤ row.left := by
    have hle := hsound.attempts_le
    unfold DeliveryRow.left
    split
    · exact le_rfl
    · omega
  exact ⟨haccount, hforfeited, hleft, hposts, by omega⟩

/-- The first order was claimed once and delivered, and has forfeited the other attempt. -/
theorem attempt_budget_delivered :
    ∃ labels t row, (system reference).Run labels t ∧ row ∈ t.db.deliveries ∧
      row.status = .delivered ∧ ((claimsOf row.deliveryId labels).length : ℤ)
        + forfeited row.maxAttempts (endingsOf row.deliveryId labels) = row.maxAttempts := by
  obtain ⟨labels, s, label, t, hrun, -, hstep, -, -, -, hdelivered, -⟩ := exists_first_delivered
  obtain ⟨hrow, -⟩ := Db.delivery_eq_some_iff.mp hdelivered
  obtain ⟨haccount, -⟩ := attempt_budget reference (hrun.snoc hstep) hrow
  refine ⟨_, t, _, hrun.snoc hstep, hrow, rfl, ?_⟩
  rw [DeliveryRow.left_of_settled (.inl rfl), add_zero] at haccount
  exact haccount

end OutboundWebhook
