import OutboundWebhook.Inspection
import OutboundWebhook.Provenance

/-!
# What the receipts say about the row

An operator reads a status and the newest receipt and concludes why the delivery is where it is.
This module says when that conclusion is right. The receipt of the current attempt fits the status:
a retry was scheduled because of a result that may be tried again, a delivery was given up because
of one that may not be or because no attempt was left. The receipts before it tell how the delivery
came to its current attempt.

One text fits every status. A claim notes `lease_expired` under the current attempt without looking
at the worker that still holds it, and that worker's outcome then moves the row without a receipt of
its own.

## Workers do not share an attempt

The invariant rests on a fact about the tasks in progress: no two of them hold the same attempt
(`inFlight_nodup`), and an attempt that is held has no receipt but `lease_expired`. So the outcome
that is committed for an attempt is its only one, and the receipt it brings is stored or that text
is there already.

## Main results

* `inFlight_nodup` — no attempt is held twice
* `receipts_explain` — the receipts fit the row, in every reachable state
-/

namespace OutboundWebhook

variable {P : Platform}

/-! ### Attempts in progress -/

/-- The attempt of the delivery that a task holds. -/
def Task.inFlight (id : String) (task : Task P) : Option (ℤ × ℤ) :=
  (task.dispatched.filter fun delivery => delivery.deliveryId = id).map DeliveryRecord.number

/-- The attempts of the delivery that are in progress. -/
def Sys.inFlight (s : Sys P) (id : String) : List (ℤ × ℤ) :=
  s.pending.filterMap fun p => p.task.inFlight id

theorem Effect.inFlight_after (effect : Effect P) (takesEffect : Timestamptz)
    (rest : List (Pending P)) (id : String) :
    (effect.after takesEffect rest).inFlight id
      = rest.filterMap (fun p => p.task.inFlight id)
        ++ (effect.task.bind (Task.inFlight id)).toList := by
  rw [Sys.inFlight, Effect.after, List.filterMap_append]
  cases effect.task with
  | none => rfl
  | some task => cases h : task.inFlight id <;> simp [h]

/-- A call that begins holds what it has claimed. -/
theorem Call.FirstStretch.inFlight {call : Call P} {begins : Timestamptz} {locked : List String}
    {db : Db} {effect : Effect P} (h : call.FirstStretch begins locked db effect) (id : String) :
    effect.observation.outcomeOf id = none ∧
      effect.task.bind (Task.inFlight id)
        = (effect.observation.claimOf id).map DeliveryRecord.number := by
  cases h with
  | @claimed plugin caller prepared result db' hclaim =>
    refine ⟨rfl, ?_⟩
    rcases result with error | claimed
    · rfl
    · cases claimed with
      | none => rfl
      | some delivery =>
        by_cases hid : delivery.deliveryId = id <;>
          simp [claimAnswer, Task.inFlight, Task.dispatched, Observation.claimOf, Stored.claimOf,
            Option.filter, hid]
  | _ => exact ⟨rfl, rfl⟩

theorem Conclusion.outcomeOf_record {conclusion : Conclusion} {delivery : DeliveryRecord}
    (hfor : conclusion.call.For delivery) {task : Task P}
    (htask : task.dispatched = some delivery) (begins : Timestamptz) (db : Db) (id : String) :
    ((conclusion.record begins db : Effect P).observation.outcomeOf id).map OutcomeCall.number
        = none
      ∨ ((conclusion.record begins db : Effect P).observation.outcomeOf id).map OutcomeCall.number
        = task.inFlight id := by
  simp only [Conclusion.record, Observation.outcomeOf, Option.bind_some]
  rcases (transact (conclusion.call.run begins) db).1 with error | ⟨⟩
  · exact .inl rfl
  · refine .inr ?_
    have hnumber : conclusion.call.number = delivery.number := by
      rw [OutcomeCall.number, hfor.replayCount, hfor.attempt]
      rfl
    by_cases hid : delivery.deliveryId = id <;>
      simp [Stored.outcomeOf, Task.inFlight, htask, Option.filter, hfor.deliveryId, hid, hnumber]

/-- A call that goes on claims nothing. It keeps what it holds, or gives it up, and with an outcome
it gives it up. -/
theorem Task.NextStretch.inFlight {task : Task P} {input : Input} {begins : Timestamptz} {db : Db}
    {effect : Effect P} (h : task.NextStretch begins db input effect) (id : String) :
    effect.observation.claimOf id = none ∧
      (effect.observation.outcomeOf id = none ∧
          effect.task.bind (Task.inFlight id) = task.inFlight id ∨
        effect.task.bind (Task.inFlight id) = none ∧
          ((effect.observation.outcomeOf id).map OutcomeCall.number = none ∨
            (effect.observation.outcomeOf id).map OutcomeCall.number = task.inFlight id)) := by
  cases h with
  | @endpointChanged plugin prepared delivery now hdiffers =>
    exact ⟨rfl, .inr ⟨rfl,
      Conclusion.outcomeOf_record (endpointChanged_for delivery now) rfl begins db id⟩⟩
  | finished hfinish =>
    exact ⟨rfl, .inr ⟨rfl,
      Conclusion.outcomeOf_record (finishOutcome_for hfinish) rfl begins db id⟩⟩
  | posted => exact ⟨rfl, .inl ⟨rfl, rfl⟩⟩
  | _ => exact ⟨rfl, .inr ⟨rfl, .inl rfl⟩⟩

/-- **A claim is the only way to hold an attempt**, and an outcome gives it up. -/
theorem Step.count_inFlight {s t : Sys P} {label : Label P} (h : Step s label t) (id : String)
    (number : ℤ × ℤ) :
    (t.inFlight id).count number
        + ((label.observation.outcomeOf id).map OutcomeCall.number).toList.count number
      ≤ (s.inFlight id).count number
        + ((label.observation.claimOf id).map DeliveryRecord.number).toList.count number := by
  cases h with
  | @start begins takesEffect locked call hbegins hnow =>
    obtain ⟨houtcome, htask⟩ := (call.firstStretch begins locked s.db).inFlight id
    rw [houtcome, Effect.inFlight_after, htask, List.count_append, ← Sys.inFlight]
    simp
  | @resume begins takesEffect before after p input effect hbegins hnow hsince hpending heffect =>
    obtain ⟨hclaim, hcases⟩ := (Task.nextStretch begins s.db heffect).inFlight id
    have hsplit : (s.inFlight id).count number
        = ((before ++ after).filterMap fun p => p.task.inFlight id).count number
          + (p.task.inFlight id).toList.count number := by
      rw [Sys.inFlight, hpending, List.filterMap_append, List.filterMap_append,
        List.filterMap_cons]
      cases p.task.inFlight id <;> simp [List.count_append, List.count_cons]
      omega
    rw [hclaim, Effect.inFlight_after, List.count_append]
    rcases hcases with ⟨houtcome, htask⟩ | ⟨htask, houtcome | houtcome⟩
    all_goals
      rw [houtcome, htask]
      simp only [Option.map_none, Option.toList_none, List.count_nil]
      omega
  | @stop takesEffect before after p hnow hpending =>
    have hsub : ((⟨s.db, takesEffect, before ++ after⟩ : Sys P).inFlight id).count number
        ≤ (s.inFlight id).count number := by
      rw [Sys.inFlight, Sys.inFlight, hpending]
      refine List.Sublist.count_le _ (List.Sublist.filterMap _ ?_)
      exact (List.sublist_cons_self p after).append_left before
    simp only [Observation.nothing, Observation.outcomeOf, Observation.claimOf, Option.bind_none,
      Option.map_none, Option.toList_none, List.count_nil]
    omega

/-- The attempt of an outcome is held when the outcome is committed. -/
theorem Step.inFlight_of_outcome {s t : Sys P} {label : Label P} (h : Step s label t)
    {call : OutcomeCall} (hstored : label.observation.stored = some (.outcome call (.ok ()))) :
    call.number ∈ s.inFlight call.deliveryId := by
  have hcount := h.count_inFlight call.deliveryId call.number
  rw [Observation.outcomeOf, Observation.claimOf, hstored, Option.bind_some,
    Stored.outcomeOf_of_eq rfl] at hcount
  refine List.count_pos_iff.mp ?_
  simp [Stored.claimOf] at hcount
  omega

/-- What is in progress is covered by the claims. -/
theorem count_inFlight_le {labels : List (Label P)} {t : Sys P} (hrun : (system P).Run labels t)
    (id : String) (number : ℤ × ℤ) :
    (t.inFlight id).count number ≤ (claimsOf id labels).count number := by
  refine hrun.induction
    (P := fun labels t => (t.inFlight id).count number ≤ (claimsOf id labels).count number) ?_ ?_
  · rintro s ⟨-, hpending⟩
    simp [Sys.inFlight, hpending]
  · intro labels s label t hs h hstep
    have hcount := Step.count_inFlight hstep id number
    rw [claimsOf_snoc, List.count_append]
    omega

/-- **No attempt is held twice.** -/
theorem inFlight_nodup {s : Sys P} (hs : (system P).Reachable s) (id : String) :
    (s.inFlight id).Nodup := by
  obtain ⟨labels, hrun⟩ := hs
  refine List.nodup_iff_count_le_one.mpr ?_
  intro number
  have hle := count_inFlight_le hrun id number
  have hone := List.nodup_iff_count_le_one.mp (claimsOf_nodup hrun id) number
  omega

/-! ### The receipt of an attempt that is held -/

/-- An attempt that is held has no receipt but that of its expired lease. -/
def Sys.HeldOpen (s : Sys P) : Prop :=
  ∀ id, ∀ number ∈ s.inFlight id, ∀ a ∈ s.db.receipts id, a.number = number →
    a.outcome = "lease_expired"

/-- The number of a claim is not that of a receipt. -/
theorem Sys.Inv.number_ne_of_claim {s : Sys P} (hinv : s.Inv) {id : String} {l : Life}
    (hl : s.db.life id = some l) {a : AttemptRow} (ha : a ∈ l.receipts) :
    a.number ≠ (l.row.replayCount, l.row.attempts + 1) := by
  obtain ⟨hrow, hreceipts⟩ := Db.life_eq_some_iff.mp hl
  intro heq
  have hle := hinv.receipts_le hrow (hreceipts ▸ ha)
  rw [heq, DeliveryRow.number, Before, Prod.mk.injEq] at hle
  omega

/-- The receipts of a held attempt after a step that neither claimed it nor gave it up. -/
theorem Observed.heldOpen {begins : Timestamptz} {id : String} {stored : Option Stored}
    {l l' : Life} (h : Observed begins id stored l l') {number : ℤ × ℤ}
    (hopen : ∀ a ∈ l.receipts, a.number = number → a.outcome = "lease_expired")
    (hother : (stored.bind (Stored.outcomeOf id)).map OutcomeCall.number ≠ some number)
    {a : AttemptRow} (ha : a ∈ l'.receipts) (hnumber : a.number = number) :
    a.outcome = "lease_expired" := by
  cases h with
  | still => exact hopen a ha hnumber
  | claimed => exact hopen a ha hnumber
  | replayed => exact hopen a ha hnumber
  | expired | retired | reclaimed =>
    rcases KeyedTable.mem_of_mem_insertNew ha with ha | rfl
    · exact hopen a ha hnumber
    · rfl
  | @recorded call _ hid =>
    rcases KeyedTable.mem_of_mem_insertNew ha with ha | rfl
    · exact hopen a ha hnumber
    · refine absurd ?_ hother
      rw [Option.bind_some, Stored.outcomeOf_of_eq hid, Option.map_some]
      exact congrArg some hnumber

/-- A transaction is not a claim and an outcome at once. -/
theorem Stored.outcomeOf_or_claimOf (id : String) (stored : Option Stored) :
    stored.bind (Stored.outcomeOf id) = none ∨ stored.bind (Stored.claimOf id) = none := by
  rcases stored with _ | stored
  · exact .inl rfl
  · cases stored with
    | outcome => exact .inr rfl
    | _ => exact .inl rfl

theorem Sys.HeldOpen.step {s t : Sys P} {label : Label P} (hs : (system P).Reachable s)
    (h : s.HeldOpen) (hstep : Step s label t) : t.HeldOpen := by
  have hinv := reachable_inv hs
  have hrefines := hstep.writes.refines hinv
  intro id number hheld a ha hnumber
  obtain ⟨hmem, haid⟩ := Db.mem_receipts.mp ha
  obtain ⟨row, hrow, hid⟩ := List.mem_map.mp (t.db.attempts_fkey a hmem)
  have hl' := Db.life_of_mem hrow
  rw [hid, haid] at hl'
  rcases hrefines.newborn_or hl' with
    ⟨-, plugin, request, delivery, begins, -, heq⟩ | ⟨l, hl, hobserved⟩
  · have hnil : t.db.receipts id = [] := congrArg Life.receipts heq
    rw [hnil] at ha
    cases ha
  · have hcount := hstep.count_inFlight id number
    have hone := List.nodup_iff_count_le_one.mp (inFlight_nodup hs id) number
    have hpos : 0 < (t.inFlight id).count number := List.count_pos_iff.mpr hheld
    refine hobserved.heldOpen ?_ ?_ ha hnumber
    · intro b hb hbnumber
      by_cases hbefore : number ∈ s.inFlight id
      · exact h id number hbefore b ((Db.life_eq_some_iff.mp hl).2 ▸ hb) hbnumber
      · -- the attempt has just been claimed, and it has no receipt
        rw [List.count_eq_zero_of_not_mem hbefore] at hcount
        rcases hobserved.claim_or (Db.deliveryId_of_life hl) with
          ⟨hclaim, -⟩ | ⟨hclaim, -⟩ | ⟨delivery, hclaim, hrecord, -⟩
        · rw [Observation.claimOf, hclaim] at hcount
          simp at hcount
          omega
        · rw [Observation.claimOf, hclaim] at hcount
          simp at hcount
          omega
        · rw [Observation.claimOf, hclaim, Option.map_some, hrecord] at hcount
          have hclaimed : (l.row.replayCount, l.row.attempts + 1) = number := by
            by_contra hne
            rw [Option.toList_some, List.count_singleton, beq_false_of_ne hne] at hcount
            simp at hcount
            omega
          exact absurd (hbnumber.trans hclaimed.symm) (hinv.number_ne_of_claim hl hb)
    · intro hgiven
      rcases Stored.outcomeOf_or_claimOf id label.observation.stored with hnone | hnone
      · rw [hnone] at hgiven
        cases hgiven
      · rw [Observation.outcomeOf, hgiven, Observation.claimOf, hnone] at hcount
        simp at hcount
        omega

theorem heldOpen_of_reachable {s : Sys P} (hs : (system P).Reachable s) : s.HeldOpen := by
  refine hs.induction (P := fun s => s.HeldOpen) ?_ fun s label t hs h hstep => h.step hs hstep
  rintro s ⟨-, hpending⟩ id number hheld
  rw [Sys.inFlight, hpending] at hheld
  cases hheld

/-! ### What a receipt may stand for -/

variable (P) in
/-- The receipt carries the result. -/
def AttemptRow.Carries (a : AttemptRow) (response : Except ClientInvocationError SendResponse) :
    Prop :=
  ∃ delivery receivedAt, a = receiptOf P delivery receivedAt response

variable (P) in
/-- The receipt of the current attempt, against the status of the row. `exhausted` says that no
attempt is left. -/
inductive Explains (exhausted : Prop) : DeliveryStatus → AttemptRow → Prop
  /-- This may be written under any attempt that has been claimed, and nothing follows from it: the
  worker that holds the attempt may still deliver it, schedule its retry or give it up. -/
  | expired {status : DeliveryStatus} {a : AttemptRow} (hstatus : status ≠ .queued)
      (ha : a.outcome = "lease_expired") : Explains exhausted status a
  | delivered {a : AttemptRow} {response : Except ClientInvocationError SendResponse}
      (hresponse : IsDelivery response) (ha : a.Carries P response) :
      Explains exhausted .delivered a
  | retried {a : AttemptRow} {response : Except ClientInvocationError SendResponse}
      (hresponse : IsRetryable response) (hleft : ¬exhausted) (ha : a.Carries P response) :
      Explains exhausted .retryScheduled a
  /-- The result may not be tried again, or no attempt is left. -/
  | abandoned {a : AttemptRow} {response : Except ClientInvocationError SendResponse}
      (hdelivery : ¬IsDelivery response) (hruntime : ¬IsRuntimeFailure response)
      (hretry : ¬(IsRetryable response ∧ ¬exhausted)) (ha : a.Carries P response) :
      Explains exhausted .deadLetter a
  | moved {a : AttemptRow} (ha : a.outcome = "endpoint_configuration_changed") :
      Explains exhausted .deadLetter a
  /-- The call failed without a result, and the lease is left to expire. -/
  | left {status : DeliveryStatus} {a : AttemptRow}
      {response : Except ClientInvocationError SendResponse}
      (hstatus : status = .delivering ∨ status = .deadLetter ∧ exhausted)
      (hresponse : IsRuntimeFailure response) (ha : a.Carries P response) :
      Explains exhausted status a

variable (P) in
/-- What a receipt tells of its delivery. -/
inductive Told (row : DeliveryRow) (a : AttemptRow) : Prop
  | current (hnumber : a.number = row.number)
      (h : Explains P (row.maxAttempts ≤ row.attempts) row.status a)
  /-- Another attempt of the cycle followed. -/
  | again {status : DeliveryStatus} (hcycle : a.replayCount = row.replayCount)
      (hlt : a.attempt < row.attempts) (hstatus : status = .retryScheduled ∨ status = .delivering)
      (h : Explains P False status a)
  /-- A replay followed. -/
  | replayed {status : DeliveryStatus} {exhausted : Prop} (hcycle : a.replayCount < row.replayCount)
      (hstatus : status = .retryScheduled ∨ status = .delivering ∨ status = .deadLetter)
      (h : Explains P exhausted status a)

theorem Explains.imp {exhausted exhausted' : Prop} {status : DeliveryStatus} {a : AttemptRow}
    (h : Explains P exhausted status a) (himp : exhausted ↔ exhausted') :
    Explains P exhausted' status a := by
  rw [← propext himp]
  exact h

/-- **The receipt an outcome brings fits the status it brings.** -/
theorem Step.explains_of_outcome {s t : Sys P} {label : Label P} (h : Step s label t)
    (hinv : s.Inv) {call : OutcomeCall}
    (hstored : label.observation.stored = some (.outcome call (.ok ()))) {l : Life}
    (hl : s.db.life call.deliveryId = some l)
    (hfenced : l.row.isFenced label.begins call.deliveryId call.replayCount call.receipt.attempt) :
    Explains P (l.row.maxAttempts ≤ l.row.attempts) call.status
      (call.receipt.toRow call.deliveryId call.replayCount) := by
  rcases h.outcome_task hstored with
    ⟨p, hp, plugin, delivery, response, receivedAt, decidedAt, conclusion, htask, hfinish, rfl, -⟩ |
    ⟨p, hp, plugin, prepared, delivery, now, htask, rfl, -⟩
  · have hfor := finishOutcome_for hfinish
    have hdispatched : p.task.dispatched = some delivery := by rw [htask]; rfl
    obtain ⟨hcontent, hnumber⟩ := hinv.fenced hp hdispatched hfor (Db.mem_of_life hl) hfenced
    have hmax : l.row.maxAttempts = delivery.maxAttempts := congrArg Content.maxAttempts hcontent
    have hattempts : l.row.attempts = delivery.attempts := congrArg Prod.snd hnumber
    have hcarries : (conclusion.call.receipt.toRow conclusion.call.deliveryId
        conclusion.call.replayCount).Carries P response := by
      rw [hfor.deliveryId, hfor.replayCount, finishOutcome_receipt hfinish]
      exact ⟨delivery, receivedAt, rfl⟩
    rw [hmax, hattempts, ← not_lt]
    cases finishOutcome_verdict hfinish with
    | delivered hresponse hstatus =>
      rw [hstatus]
      exact .delivered hresponse hcarries
    | retried hresponse hleft hstatus =>
      rw [hstatus]
      exact .retried hresponse (not_not_intro hleft) hcarries
    | abandoned hdelivery hruntime hretry hstatus =>
      rw [hstatus]
      exact .abandoned hdelivery hruntime (by rwa [not_not]) hcarries
    | left hresponse hstatus =>
      rw [hstatus]
      exact .left (.inl rfl) (by rw [hresponse]; trivial) hcarries
  · exact .moved rfl

/-- A row that is claimed again has been waiting for it or has been left. -/
theorem Told.again_of_current {row row' : DeliveryRow} {a : AttemptRow} (h : Told P row a)
    (hnumber : row'.number = (row.replayCount, row.attempts + 1))
    (hstatus : row.status = .queued ∨ row.status = .retryScheduled ∨ row.status = .delivering)
    (hleft : row.attempts < row.maxAttempts) : Told P row' a := by
  obtain ⟨hcycle', hattempts'⟩ := Prod.mk.inj hnumber
  cases h with
  | current hcurrent hexplains =>
    obtain ⟨hcycle, hattempt⟩ := Prod.mk.inj hcurrent
    refine .again (hcycle.trans hcycle'.symm) ?_ ?_
      (hexplains.imp (iff_false_intro (not_le.mpr hleft)))
    · have : a.attempt = row.attempts := hattempt
      omega
    · refine hstatus.resolve_left ?_
      intro hqueued
      rw [hqueued] at hexplains
      cases hexplains with
      | expired hne => exact hne rfl
      | left hleft => simp at hleft
  | again hcycle hlt hstatus' hexplains =>
    exact .again (hcycle.trans hcycle'.symm) (by omega) hstatus' hexplains
  | replayed hcycle hstatus' hexplains => exact .replayed (by omega) hstatus' hexplains

/-- A row that is replayed has been given up. -/
theorem Told.replayed_of_current {row row' : DeliveryRow} {a : AttemptRow} (h : Told P row a)
    (hcycle' : row'.replayCount = row.replayCount + 1) (hstatus : row.status = .deadLetter) :
    Told P row' a := by
  cases h with
  | current hcurrent hexplains =>
    have hcycle : a.replayCount = row.replayCount := congrArg Prod.fst hcurrent
    exact .replayed (by omega) (.inr (.inr hstatus)) hexplains
  | again hcycle hlt hstatus' hexplains =>
    exact .replayed (by omega) (hstatus'.imp_right .inl) hexplains
  | replayed hcycle hstatus' hexplains => exact .replayed (by omega) hstatus' hexplains

/-- A row that keeps its attempt keeps what is told of the attempts before it. -/
theorem Told.of_number {row row' : DeliveryRow} {a : AttemptRow} (h : Told P row a)
    (hnumber : row'.number = row.number)
    (hcurrent : a.number = row.number →
      Explains P (row.maxAttempts ≤ row.attempts) row.status a →
      Explains P (row'.maxAttempts ≤ row'.attempts) row'.status a) : Told P row' a := by
  obtain ⟨hcycle', hattempts'⟩ := Prod.mk.inj hnumber
  cases h with
  | current hsame hexplains => exact .current (hsame.trans hnumber.symm) (hcurrent hsame hexplains)
  | again hcycle hlt hstatus hexplains =>
    exact .again (hcycle.trans hcycle'.symm) (by omega) hstatus hexplains
  | replayed hcycle hstatus hexplains => exact .replayed (by omega) hstatus hexplains

theorem told_of_expiry {row : DeliveryRow} {begins : Timestamptz} (hstatus : row.status ≠ .queued) :
    Told P row (leaseExpiredReceipt begins row) :=
  .current rfl (.expired hstatus rfl)

/-- A receipt is told of a row that the same step has moved. -/
theorem Observed.told {s t : Sys P} {label : Label P} (hs : (system P).Reachable s)
    (hstep : Step s label t) {id : String} {stored : Option Stored} {l l' : Life}
    (hl : s.db.life id = some l) (hstored : label.observation.stored = stored)
    (h : Observed label.begins id stored l l') (htold : ∀ a ∈ l.receipts, Told P l.row a)
    {a : AttemptRow} (ha : a ∈ l'.receipts) : Told P l'.row a := by
  have hinv := reachable_inv hs
  have hsound := (hinv.sound id l hl).row
  cases h with
  | still => exact htold a ha
  | expired hother hexpired =>
    obtain ⟨-, hstatus, -⟩ := DeliveryRow.isExpired_iff.mp hexpired
    rcases KeyedTable.mem_of_mem_insertNew ha with ha | rfl
    · exact htold a ha
    · exact told_of_expiry (by simp [hstatus])
  | @retired queueName result _ hother hexpired hlast =>
    obtain ⟨-, hstatus, -⟩ := DeliveryRow.isExpired_iff.mp hexpired
    rcases KeyedTable.mem_of_mem_insertNew ha with ha | rfl
    · refine (htold a ha).of_number rfl ?_
      intro _ hexplains
      rw [hstatus] at hexplains
      cases hexplains with
      | expired _ hoc => exact .expired nofun hoc
      | left _ hresponse hcarries => exact .left (.inr ⟨rfl, hlast⟩) hresponse hcarries
    · exact .current rfl (.expired nofun rfl)
  | claimed leaseSeconds hwaiting hleft =>
    have hstatus := (DeliveryRow.isWaiting_iff.mp hwaiting).1
    exact (htold a ha).again_of_current rfl (hstatus.imp_right .inl) hleft
  | reclaimed leaseSeconds hexpired hleft =>
    obtain ⟨-, hstatus, -⟩ := DeliveryRow.isExpired_iff.mp hexpired
    have hagain : Told P l.row a := by
      rcases KeyedTable.mem_of_mem_insertNew ha with ha | rfl
      · exact htold a ha
      · exact told_of_expiry (by simp [hstatus])
    exact hagain.again_of_current rfl (.inr (.inr hstatus)) hleft
  | @recorded call _ hid hfenced hqueued =>
    subst hid
    have hnew := hstep.explains_of_outcome hinv hstored hl hfenced
    obtain ⟨-, hnumber, hstatus, -⟩ := DeliveryRow.isFenced_iff.mp hfenced
    have hheld := hstep.inFlight_of_outcome hstored
    rcases KeyedTable.mem_of_mem_insertNew ha with ha | rfl
    · refine (htold a ha).of_number rfl ?_
      intro hcurrent _
      have hopen := heldOpen_of_reachable hs _ _ hheld a
        ((Db.life_eq_some_iff.mp hl).2 ▸ ha) (hcurrent.trans hnumber)
      exact .expired hqueued hopen
    · exact .current hnumber.symm hnew
  | replayed hreplayable =>
    exact (htold a ha).replayed_of_current rfl (DeliveryRow.isReplayable_iff.mp hreplayable).2.1

theorem told_of_reachable {s : Sys P} (hs : (system P).Reachable s) :
    ∀ id l, s.db.life id = some l → ∀ a ∈ l.receipts, Told P l.row a := by
  refine hs.induction
    (P := fun s => ∀ id l, s.db.life id = some l → ∀ a ∈ l.receipts, Told P l.row a) ?_ ?_
  · intro s hinit id l hl
    rw [life_of_init hinit] at hl
    cases hl
  · intro s label t hs h hstep id l' hl' a ha
    have hrefines := (Step.writes hstep).refines (reachable_inv hs)
    rcases hrefines.newborn_or hl' with
      ⟨-, plugin, request, delivery, begins, -, rfl⟩ | ⟨l, hl, hobserved⟩
    · cases ha
    · exact hobserved.told hs hstep hl rfl (h id l hl) ha

/-! ### The text of a delivery -/

theorem receiptOf_outcome_ne {delivery : DeliveryRecord} {receivedAt : OffsetDateTime}
    {response : Except ClientInvocationError SendResponse} (h : ¬IsDelivery response) :
    (receiptOf P delivery receivedAt response).outcome ≠ "delivered" := by
  match response with
  | .ok response =>
    have hnot : ¬(200 ≤ response.status ∧ response.status ≤ 299) := h
    intro heq
    have hchars := congrArg (fun text : String => text.toList.head?) heq
    simp [receiptOf, hnot] at hchars
  | .error (.domain error) => cases error <;> simp [receiptOf, httpDomainFailure]
  | .error (.runtime error) => simp [receiptOf]

/-- Only the receipt of a delivery has its text. -/
theorem Explains.status_of_delivered {exhausted : Prop} {status : DeliveryStatus} {a : AttemptRow}
    (h : Explains P exhausted status a) (ha : a.outcome = "delivered") : status = .delivered := by
  cases h with
  | expired _ hexpired => exact absurd (hexpired.symm.trans ha) (by decide)
  | delivered => rfl
  | retried hresponse _ hcarries =>
    obtain ⟨delivery, receivedAt, rfl⟩ := hcarries
    exact absurd ha (receiptOf_outcome_ne hresponse.disjoint.1)
  | abandoned hdelivery _ _ hcarries =>
    obtain ⟨delivery, receivedAt, rfl⟩ := hcarries
    exact absurd ha (receiptOf_outcome_ne hdelivery)
  | moved hmoved => exact absurd (hmoved.symm.trans ha) (by decide)
  | left _ hresponse hcarries =>
    obtain ⟨delivery, receivedAt, rfl⟩ := hcarries
    exact absurd ha (receiptOf_outcome_ne hresponse.not_isDelivery)

theorem Told.delivered {row : DeliveryRow} {a : AttemptRow} (h : Told P row a)
    (ha : a.outcome = "delivered") : row.status = .delivered ∧ a.number = row.number := by
  cases h with
  | current hnumber hexplains => exact ⟨hexplains.status_of_delivered ha, hnumber⟩
  | again hcycle hlt hstatus hexplains =>
    have := hexplains.status_of_delivered ha
    simp [this] at hstatus
  | replayed hcycle hstatus hexplains =>
    have := hexplains.status_of_delivered ha
    simp [this] at hstatus

/-- The receipt that no other one follows is the last one. -/
theorem getLast?_eq_some_of_newest {receipts : List AttemptRow}
    (hordered : (receipts.map AttemptRow.number).Pairwise Before) {a : AttemptRow}
    (ha : a ∈ receipts) (hnewest : ∀ b ∈ receipts, b.number = a.number ∨ Before b.number a.number) :
    receipts.getLast? = some a := by
  rcases List.eq_nil_or_concat receipts with rfl | ⟨front, last, rfl⟩
  · cases ha
  rw [List.concat_eq_append] at hordered ha hnewest ⊢
  rw [List.getLast?_concat]
  rcases List.mem_append.mp ha with hfront | hlast
  · rw [List.map_append, List.pairwise_append] at hordered
    have hbefore : Before a.number last.number := hordered.2.2 _ (List.mem_map_of_mem hfront) _
      (List.mem_map_of_mem (List.mem_singleton.mpr rfl))
    rcases hnewest last (List.mem_append_right _ (List.mem_singleton.mpr rfl)) with heq | hafter
    · exact absurd heq.symm hbefore.ne
    · exact absurd rfl (hbefore.trans hafter).ne
  · rw [List.mem_singleton.mp hlast]

/-- **The receipts explain the row.** -/
theorem receipts_explain (P : Platform) {s : Sys P} (hs : (system P).Reachable s) {id : String}
    {row : DeliveryRow} (hrow : s.db.delivery id = some row) :
    (∀ a ∈ s.db.receipts id, Told P row a) ∧
    (∀ a ∈ s.db.receipts id, a.outcome = "delivered" →
      row.status = .delivered ∧ a.number = row.number) ∧
    (row.status = .retryScheduled ∨ row.status = .delivered ∨ row.status = .deadLetter →
      ∃ a ∈ s.db.receipts id, a.number = row.number ∧
        lastReceipt s.db id = some (decodeReceipt a) ∧
        Explains P (row.maxAttempts ≤ row.attempts) row.status a) := by
  have hinv := reachable_inv hs
  have hlife := Db.life_of_delivery hrow
  have hsound := hinv.sound id _ hlife
  have htold := told_of_reachable hs id _ hlife
  refine ⟨htold, fun a ha hdelivered => (htold a ha).delivered hdelivered, ?_⟩
  intro hrest
  have hledger : Ledger row ((s.db.receipts id).map AttemptRow.number) := hsound.ledger_spec
  have hstarted : 1 ≤ row.attempts := by
    rcases hrest with hrest | hrest
    · exact (hsound.row.retry hrest).1
    · exact (hsound.row.started (.inr hrest)).1
  obtain ⟨a, ha, hnumber⟩ := List.mem_map.mp
    ((hledger.atRest hrest row.attempts).mpr ⟨hstarted, le_rfl⟩)
  have hnumber : a.number = row.number := hnumber
  refine ⟨a, ha, hnumber, ?_, ?_⟩
  · have hnewest := getLast?_eq_some_of_newest (hinv.ledger id) ha fun b hb => by
      rw [hnumber]
      exact hinv.receipts_le hrow hb
    rw [lastReceipt_eq_getLast? (hinv.ledger id), hnewest, Option.map_some]
  · cases htold a ha with
    | current _ hexplains => exact hexplains
    | again _ hlt =>
      have hsame : a.attempt = row.attempts := congrArg Prod.snd hnumber
      exact absurd hsame (ne_of_lt hlt)
    | replayed hcycle =>
      have hsame : a.replayCount = row.replayCount := congrArg Prod.fst hnumber
      exact absurd hsame (ne_of_lt hcycle)

/-- The first order, delivered. -/
theorem receipts_explain_delivered :
    ∃ s row a, (system reference).Reachable s ∧
      s.db.delivery firstOrder.delivery.deliveryId = some row ∧ row.status = .delivered ∧
      (∀ a ∈ s.db.receipts firstOrder.delivery.deliveryId, Told reference row a) ∧
      lastReceipt s.db firstOrder.delivery.deliveryId = some (decodeReceipt a) ∧
      Explains reference (row.maxAttempts ≤ row.attempts) .delivered a := by
  obtain ⟨labels, s, label, t, hrun, -, hstep, -, -, -, hdelivered, -⟩ := exists_first_delivered
  obtain ⟨htold, -, hnewest⟩ :=
    receipts_explain reference (hrun.snoc hstep).reachable hdelivered
  obtain ⟨a, -, -, hlast, hexplains⟩ := hnewest (.inr (.inl rfl))
  exact ⟨t, _, a, (hrun.snoc hstep).reachable, hdelivered, rfl, htold, hlast, hexplains⟩

end OutboundWebhook
