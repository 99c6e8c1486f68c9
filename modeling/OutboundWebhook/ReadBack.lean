import OutboundWebhook.Dispatch
import OutboundWebhook.Inspection
import OutboundWebhook.Leases

/-!
# A receipt, reported and read back

A dispatch formats the receipt it has just made from memory. An inspect formats the receipt it
reads back from its columns. Four of the five fields survive the columns as they are. The fifth is
the time: the clock counts nanoseconds and the column microseconds.

The times a delivery is due are cut to the microsecond before they are bound
(`databaseTimestampNow`), and the times of receipts are not. So the two reports agree exactly at the
clock readings that are whole microseconds.

The column keeps whole microseconds of the distance to 2000-01-01, so a reading before that date is
moved forwards and not back. It is told apart from what is read back all the same.

## Sequential runs

The comparison is of one dispatch and a later inspect, so the runs are those in which a call starts
only when no other is in progress. In such a run the attempt a dispatch works on has no receipt
until the dispatch records it (`orderly_of_sequential`), which is where the order of the calls is
used: among concurrent workers another receipt may have taken the place.

## Main results

* `reported_receipt_read_back`
-/

namespace OutboundWebhook

variable {P : Platform}

/-! ### One call at a time -/

/-- A call starts only when none is in progress. -/
def OneAtATime (s : Sys P) (label : Label P) : Prop :=
  (∃ call, label.action = .start call) → s.pending = []

variable (P) in
/-- The system with one call at a time. -/
def sequential : TransitionSystem (Sys P) (Label P) := (system P).restrict OneAtATime

theorem Step.sequential_of_idle {s t : Sys P} {label : Label P} (h : Step s label t)
    (hpending : s.pending = []) : (sequential P).step s label t :=
  ⟨fun _ => hpending, h⟩

theorem Step.sequential_of_resume {s t : Sys P} {label : Label P} (h : Step s label t)
    {task : Task P} {input : Input} (haction : label.action = .resume task input) :
    (sequential P).step s label t := by
  refine ⟨?_, h⟩
  intro hstart
  obtain ⟨call, hcall⟩ := hstart
  cases haction.symm.trans hcall

/-- The attempt has no receipt. -/
def DeliveryRecord.Fresh (delivery : DeliveryRecord) (db : Db) : Prop :=
  delivery.number ∉ (db.receipts delivery.deliveryId).map AttemptRow.number

/-- A claim starts an attempt that has no receipt. -/
theorem Writes.fresh_of_claim {s : Sys P} (hinv : s.Inv) {begins : Timestamptz}
    {queueName : String} {delivery : DeliveryRecord} {db' : Db}
    (h : Writes s begins (some (.claim queueName (.ok (some delivery)))) db') :
    delivery.Fresh db' := by
  obtain ⟨plugin, locked, -, hrun⟩ := h.claim_inv
  obtain ⟨db₁, hok, hd, ha⟩ := hinv.claim plugin begins locked
  rw [hok, Prod.mk.injEq, Except.ok.injEq] at hrun
  obtain ⟨hrecord, rfl⟩ := hrun
  obtain ⟨row, hcandidate, rfl⟩ := Option.map_eq_some_iff.mp hrecord
  have hmem := (Db.candidate_eq_some hcandidate).1
  have hafter := Db.life_afterClaim (Db.life_of_mem hmem) hd ha
  obtain ⟨-, hreceipts⟩ := Db.life_eq_some_iff.mp hafter
  have hbefore : ∀ a ∈ s.db.receipts row.deliveryId,
      Before a.number
        (row.assign (claimAssignment begins plugin.config.leaseSeconds row)).number := by
    intro a ha
    have hclaimed : Before row.number
        (row.assign (claimAssignment begins plugin.config.leaseSeconds row)).number :=
      before_claimed plugin.config.leaseSeconds row
    rcases hinv.receipts_le (Db.delivery_of_mem hmem) ha with heq | hlt
    · exact heq ▸ hclaimed
    · exact hlt.trans hclaimed
  intro hnumber
  obtain ⟨a, ha, heq⟩ := List.mem_map.mp hnumber
  rw [decodeDelivery_number] at heq
  rw [show (decodeDelivery (row.assign (claimAssignment begins plugin.config.leaseSeconds
    row))).deliveryId = row.deliveryId from rfl, hreceipts] at ha
  split at ha
  · rcases KeyedTable.mem_of_mem_insertNew ha with ha | rfl
    · exact (hbefore a ha).ne heq
    · exact (before_claimed plugin.config.leaseSeconds row).ne heq
  · exact (hbefore a ha).ne heq

/-- At most one call is in progress, and the attempt it works on has no receipt. -/
structure Sys.Orderly (s : Sys P) : Prop where
  pending : s.pending.length ≤ 1
  fresh : ∀ p ∈ s.pending, ∀ delivery, p.task.dispatched = some delivery → delivery.Fresh s.db

theorem Effect.length_pending_after (effect : Effect P) (takesEffect : Timestamptz) :
    (effect.after takesEffect []).pending.length ≤ 1 := by
  rw [Effect.after, List.nil_append]
  cases effect.task with
  | none => exact Nat.zero_le 1
  | some task => exact le_refl 1

/-- A stretch that goes on with a delivery has left the tables alone. -/
theorem Task.NextStretch.db_eq {task task' : Task P} {input : Input} {begins : Timestamptz}
    {db : Db} {effect : Effect P} (h : task.NextStretch begins db input effect)
    (htask : effect.task = some task') : effect.db = db := by
  cases h with
  | posted => rfl
  | replayable => rfl
  | _ => cases htask

theorem Sys.Orderly.step {s t : Sys P} {label : Label P} (h : s.Orderly) (hinv : s.Inv)
    (hone : OneAtATime s label) (hstep : Step s label t) : t.Orderly := by
  cases hstep with
  | @start begins takesEffect locked call hbegins hnow =>
    have hpending : s.pending = [] := hone ⟨call, rfl⟩
    rw [hpending]
    refine ⟨Effect.length_pending_after _ _, ?_⟩
    intro p hp delivery hdelivery
    have htask := ((Effect.mem_after hp).resolve_left List.not_mem_nil).1
    have hfirst := call.firstStretch begins locked s.db
    obtain ⟨queueName, hstored⟩ := hfirst.dispatched htask hdelivery
    have hwrites := hfirst.writes
    rw [hstored] at hwrites
    exact hwrites.fresh_of_claim hinv
  | @resume begins takesEffect before after q input effect hbegins hnow hsince hpending heffect =>
    have hlength := h.pending
    rw [hpending, List.length_append, List.length_cons] at hlength
    obtain rfl : before = [] := List.length_eq_zero_iff.mp (by omega)
    obtain rfl : after = [] := List.length_eq_zero_iff.mp (by omega)
    refine ⟨Effect.length_pending_after _ _, ?_⟩
    intro p hp delivery hdelivery
    have htask := ((Effect.mem_after hp).resolve_left List.not_mem_nil).1
    have hnext := Task.nextStretch begins s.db heffect
    show delivery.Fresh effect.db
    rw [hnext.db_eq htask]
    exact h.fresh q (Sys.mem_of_split hpending) delivery (hnext.dispatched htask hdelivery)
  | @stop takesEffect before after q hnow hpending =>
    have hlength := h.pending
    rw [hpending, List.length_append, List.length_cons] at hlength
    obtain rfl : before = [] := List.length_eq_zero_iff.mp (by omega)
    obtain rfl : after = [] := List.length_eq_zero_iff.mp (by omega)
    exact ⟨Nat.zero_le 1, fun p hp => by cases hp⟩

/-- **The invariant of sequential runs.** -/
theorem orderly_of_sequential {s : Sys P} (hs : (sequential P).Reachable s) : s.Orderly := by
  refine hs.induction (P := fun s => s.Orderly) ?_ ?_
  · rintro s ⟨-, hpending⟩
    refine ⟨by simp [hpending], ?_⟩
    intro p hp
    rw [hpending] at hp
    cases hp
  · intro s label t hs horderly hstep
    exact horderly.step (reachable_inv hs.of_restrict) hstep.1 hstep.2

/-! ### The two reports -/

/-- The clock reading that dates the receipt. -/
def Input.receiptClock : Input → Option OffsetDateTime
  | .clock now => some now
  | .response _ receivedAt _ => some receivedAt
  | .turn => none

theorem dispatchResponse_inv {ε : Type} {deliveryId : String} {outcome : DispatchResponseOutcome}
    {receipt : DeliveryReceipt} {answer : DispatchResponse}
    (h : (dispatchResponse P deliveryId outcome receipt : Except (Abort ε) DispatchResponse)
      = .ok answer) :
    ∃ reported, (responseReceipt P receipt : Except (Abort ε) ResponseReceipt) = .ok reported ∧
      answer = ⟨some deliveryId, outcome, some reported⟩ := by
  unfold dispatchResponse at h
  cases hreceipt : (responseReceipt P receipt : Except (Abort ε) ResponseReceipt) with
  | error e => simp [hreceipt, bind, Except.bind] at h
  | ok reported =>
    simp only [hreceipt, bind, Except.bind, pure, Except.pure, Except.ok.injEq] at h
    exact ⟨reported, rfl, h.symm⟩

/-- The response of an inspect, with the receipt as it is shown. -/
def DeliveryRecord.shown (delivery : DeliveryRecord) (lastReceipt : Option ResponseReceipt) :
    InspectResponse where
  attempts := delivery.attempts
  deliveryId := delivery.deliveryId
  endpointOrigin := delivery.endpointOrigin
  eventId := delivery.eventId
  eventType := delivery.eventType
  lastReceipt := lastReceipt
  maxAttempts := delivery.maxAttempts
  payloadSha256 := delivery.payloadSha256
  replayCount := delivery.replayCount
  status := delivery.status

theorem inspectResponse_shown {ε : Type} {delivery : DeliveryRecord} {response : InspectResponse}
    (h : (inspectResponse P delivery : Except (Abort ε) InspectResponse) = .ok response) :
    ∃ shown, (delivery.lastReceipt.mapM (responseReceipt P) :
        Except (Abort ε) (Option ResponseReceipt)) = .ok shown ∧
      response = delivery.shown shown := by
  unfold inspectResponse at h
  generalize hshown : (delivery.lastReceipt.mapM (responseReceipt P) :
    Except (Abort ε) (Option ResponseReceipt)) = shown at h
  rcases shown with error | shown
  · cases h
  · exact ⟨shown, rfl, (Except.ok.inj h).symm⟩

/-- The receipt is shown, or there is none. -/
theorem shown_cases {ε : Type} {receipt : Option DeliveryReceipt} {shown : Option ResponseReceipt}
    (h : (receipt.mapM (responseReceipt P) : Except (Abort ε) (Option ResponseReceipt))
      = .ok shown) :
    (receipt = none ∧ shown = none) ∨ ∃ stored value, receipt = some stored ∧ shown = some value ∧
      (responseReceipt P stored : Except (Abort ε) ResponseReceipt) = .ok value := by
  rcases receipt with - | stored
  · exact .inl ⟨rfl, (Except.ok.inj h).symm⟩
  · rw [Option.mapM_some] at h
    cases hvalue : (responseReceipt P stored : Except (Abort ε) ResponseReceipt) with
    | error error =>
      rw [hvalue] at h
      cases h
    | ok value =>
      rw [hvalue] at h
      exact .inr ⟨stored, value, rfl, (Except.ok.inj h).symm, hvalue⟩

/-- The conclusion reports nothing but its receipt. -/
def Conclusion.ReportsReceipt (P : Platform) (conclusion : Conclusion) : Prop :=
  ∀ answer, conclusion.answer = .ok answer → ∃ outcome, conclusion.answer
    = dispatchResponse P conclusion.call.deliveryId outcome conclusion.call.receipt

theorem endpointChanged_reportsReceipt (delivery : DeliveryRecord) (now : OffsetDateTime) :
    (endpointChanged P delivery now).ReportsReceipt P :=
  fun _ _ => ⟨.deadLettered, rfl⟩

theorem finishOutcome_reportsReceipt {config : OutboundWebhookConfig} {delivery : DeliveryRecord}
    {response : Except ClientInvocationError SendResponse} {receivedAt decidedAt : OffsetDateTime}
    {conclusion : Conclusion}
    (hfinish : finishOutcome P config delivery response receivedAt decidedAt = .ok conclusion) :
    conclusion.ReportsReceipt P := by
  intro answer hanswer
  rw [(finishOutcome_for hfinish).deliveryId]
  cases finishOutcome_verdict hfinish with
  | delivered _ _ _ h => exact ⟨_, h⟩
  | retried _ _ _ _ _ h => exact ⟨_, h⟩
  | abandoned _ _ _ _ _ h => exact ⟨_, h⟩
  | left _ _ _ h => cases h.symm.trans hanswer

/-- A report is made of a recorded receipt. -/
theorem Conclusion.ReportsReceipt.record_inv {conclusion : Conclusion}
    (h : conclusion.ReportsReceipt P) {begins : Timestamptz} {db : Db} {id : String}
    {outcome : DispatchResponseOutcome} {reported : ResponseReceipt}
    (hanswer : (conclusion.record begins db : Effect P).observation.answer
      = some (.dispatch (.ok ⟨some id, outcome, some reported⟩))) :
    conclusion.call.deliveryId = id ∧
      responseReceipt P conclusion.call.receipt
        = (.ok reported : Except (Abort AdminFlowError) ResponseReceipt) ∧
      conclusion.call.run begins db = .ok ((), (conclusion.record begins db : Effect P).db) := by
  cases hrun : conclusion.call.run begins db with
  | error e => simp [Conclusion.record, transact_of_eq_error hrun] at hanswer
  | ok value =>
    obtain ⟨⟨⟩, db'⟩ := value
    simp only [Conclusion.record, transact_of_eq_ok hrun, Option.some.injEq,
      Answer.dispatch.injEq] at hanswer
    obtain ⟨outcome', hresponse⟩ := h _ hanswer
    obtain ⟨receipt, hreceipt, hfields⟩ := dispatchResponse_inv (hresponse.symm.trans hanswer)
    simp only [DispatchResponse.mk.injEq, Option.some.injEq] at hfields
    obtain ⟨hid, -, rfl⟩ := hfields
    refine ⟨hid.symm, hreceipt, ?_⟩
    rw [Conclusion.record, transact_of_eq_ok hrun]

/-- A dispatch that reports a receipt has recorded it. -/
theorem Step.reported_inv {s t : Sys P} {label : Label P} (h : Step s label t) {task : Task P}
    {input : Input} (haction : label.action = .resume task input) {clock : OffsetDateTime}
    (hclock : input.receiptClock = some clock) {id : String} {outcome : DispatchResponseOutcome}
    {reported : ResponseReceipt}
    (hanswer : label.observation.answer
      = some (.dispatch (.ok ⟨some id, outcome, some reported⟩))) :
    ∃ delivery call, (∃ p ∈ s.pending, p.task.dispatched = some delivery) ∧
      OutcomeCall.For call delivery ∧ call.deliveryId = id ∧ call.receipt.occurredAt = clock ∧
      responseReceipt P call.receipt
        = (.ok reported : Except (Abort AdminFlowError) ResponseReceipt) ∧
      call.run label.begins s.db = .ok ((), t.db) := by
  obtain ⟨p, hp, rfl, -, effect, heffect, hobservation, hdb⟩ := h.resume_inv haction
  rw [hobservation] at hanswer
  rw [hdb]
  have hnext := Task.nextStretch label.begins s.db heffect
  obtain ⟨task, since⟩ := p
  cases hnext with
  | @endpointChanged plugin prepared delivery now hdiffers =>
    obtain rfl : now = clock := Option.some.inj hclock
    obtain ⟨hid, hreported, hrun⟩ :=
      (endpointChanged_reportsReceipt delivery now).record_inv hanswer
    exact ⟨delivery, (endpointChanged P delivery now).call, ⟨_, hp, rfl⟩,
      endpointChanged_for delivery now, hid, rfl, hreported, hrun⟩
  | @finished plugin delivery response receivedAt decidedAt conclusion hfinish =>
    obtain rfl : receivedAt = clock := Option.some.inj hclock
    obtain ⟨hid, hreported, hrun⟩ := (finishOutcome_reportsReceipt hfinish).record_inv hanswer
    exact ⟨delivery, conclusion.call, ⟨_, hp, rfl⟩, finishOutcome_for hfinish, hid,
      finishOutcome_occurredAt hfinish, hreported, hrun⟩
  | outOfRange => simp [Effect.ended] at hanswer
  | unsigned => simp [Effect.ended] at hanswer
  | posted => simp at hanswer
  | inspected => simp [inspectReceipt, Effect.ended] at hanswer
  | notDeadLetter => simp [Effect.ended] at hanswer
  | replayable => simp [Effect.pending] at hanswer
  | replayed => simp [replayStored] at hanswer

theorem IsOutcome.reportsReceipt {task : Task P} {conclusion : Conclusion}
    (h : IsOutcome task conclusion) : conclusion.ReportsReceipt P := by
  cases h with
  | endpointChanged => exact endpointChanged_reportsReceipt _ _
  | finish hfinish => exact finishOutcome_reportsReceipt hfinish

theorem Conclusion.record_inv {conclusion : Conclusion} {begins : Timestamptz} {db : Db}
    {answer : DispatchResponse}
    (hanswer : (conclusion.record begins db : Effect P).observation.answer
      = some (.dispatch (.ok answer))) :
    conclusion.answer = .ok answer ∧
      conclusion.call.run begins db = .ok ((), (conclusion.record begins db : Effect P).db) := by
  rw [Conclusion.record, Option.some.injEq, Answer.dispatch.injEq] at hanswer
  cases hrun : conclusion.call.run begins db with
  | error error =>
    rw [transact_of_eq_error hrun] at hanswer
    cases hanswer
  | ok value =>
    rw [transact_of_eq_ok hrun] at hanswer
    refine ⟨hanswer, ?_⟩
    rw [Conclusion.record, transact_of_eq_ok hrun]

/-- A dispatch that is answered was idle, or it has recorded the outcome it answers with. -/
theorem Step.dispatch_answer_inv {s t : Sys P} {label : Label P} (h : Step s label t)
    {answer : DispatchResponse}
    (hanswer : label.observation.answer = some (.dispatch (.ok answer))) :
    answer = idleDispatch ∨ ∃ p ∈ s.pending, ∃ conclusion, IsOutcome p.task conclusion ∧
      conclusion.answer = .ok answer ∧ conclusion.call.run label.begins s.db = .ok ((), t.db) := by
  cases h with
  | @start begins takesEffect locked call hbegins hnow =>
    have hfirst := call.firstStretch begins locked s.db
    generalize call.start begins locked s.db = effect at hfirst hanswer
    cases hfirst with
    | @claimed plugin caller prepared result db' hclaim =>
      rcases result with error | claimed
      · cases hanswer
      · rcases claimed with - | delivery
        · cases hanswer
          exact .inl rfl
        · cases hanswer
    | _ => cases hanswer
  | @resume begins takesEffect before after p input effect hbegins hnow hsince hpending heffect =>
    have hp := Sys.mem_of_split hpending
    have hnext := Task.nextStretch begins s.db heffect
    obtain ⟨task, since⟩ := p
    cases hnext with
    | endpointChanged hdiffers =>
      obtain ⟨hresult, hrun⟩ := @Conclusion.record_inv P _ _ _ _ hanswer
      exact .inr ⟨_, hp, _, .endpointChanged _ hdiffers, hresult, hrun⟩
    | finished hfinish =>
      obtain ⟨hresult, hrun⟩ := @Conclusion.record_inv P _ _ _ _ hanswer
      exact .inr ⟨_, hp, _, .finish hfinish, hresult, hrun⟩
    | _ => cases hanswer
  | stop => cases hanswer

/-- The receipt with its time cut to what a column holds. -/
def DeliveryReceipt.truncated (receipt : DeliveryReceipt) : DeliveryReceipt :=
  { receipt with occurredAt := ofTimestamptz (toTimestamptz receipt.occurredAt) }

/-- The columns of a receipt keep all but the digits below a microsecond. -/
theorem decodeReceipt_toRow (receipt : DeliveryReceipt) (deliveryId : String) (replayCount : ℤ) :
    decodeReceipt (receipt.toRow deliveryId replayCount) = receipt.truncated := rfl

/-- **What an inspect reads** is what was recorded, its time cut to the microsecond. -/
theorem lastReceipt_of_recorded {s t : Sys P} (ht : t.Inv) {delivery : DeliveryRecord}
    (hfresh : delivery.Fresh s.db) {call : OutcomeCall} (hfor : call.For delivery)
    {begins : Timestamptz} (hrun : call.run begins s.db = .ok ((), t.db)) :
    lastReceipt t.db call.deliveryId = some call.receipt.truncated := by
  obtain ⟨-, -, -, ha⟩ := recordOutcome_ok_inv hrun
  have hnew : (call.receipt.toRow call.deliveryId call.replayCount).number
      ∉ (s.db.receipts call.deliveryId).map AttemptRow.number := by
    rw [hfor.deliveryId, hfor.replayCount]
    show (delivery.replayCount, call.receipt.attempt) ∉ _
    rw [hfor.attempt]
    exact hfresh
  have hreceipts : t.db.receipts call.deliveryId = s.db.receipts call.deliveryId
      ++ [call.receipt.toRow call.deliveryId call.replayCount] := by
    rw [← KeyedTable.insertNew_of_notMem hnew]
    exact Db.receipts_of_insertNew_self ha
  rw [lastReceipt_eq_getLast? (ht.ledger _), hreceipts, List.getLast?_concat, Option.map_some,
    decodeReceipt_toRow]

/-- Two instants less than a second apart have different texts. -/
def Platform.WritesEveryDigit (P : Platform) : Prop :=
  ∀ t t' s, -1000000000 < t.unixTimestampNanos - t'.unixTimestampNanos →
    t.unixTimestampNanos - t'.unixTimestampNanos < 1000000000 →
    P.formatRfc3339 t = .ok s → P.formatRfc3339 t' = .ok s → t = t'

theorem responseReceipt_eq_ok_iff {ε : Type} {receipt : DeliveryReceipt}
    {reported : ResponseReceipt} :
    (responseReceipt P receipt : Except (Abort ε) ResponseReceipt) = .ok reported ↔
      P.formatRfc3339 receipt.occurredAt = .ok reported.occurredAt ∧
        reported.attempt = receipt.attempt ∧
        reported.httpStatus = receipt.httpStatus.map toString ∧
        reported.outcome = receipt.outcome ∧ reported.responseSha256 = receipt.responseSha256 := by
  obtain ⟨attempt, httpStatus, occurredAt, outcome, responseSha256⟩ := reported
  rw [responseReceipt, formatTime]
  cases h : P.formatRfc3339 receipt.occurredAt with
  | error e => simp
  | ok text =>
    simp only [Except.ok.injEq, ResponseReceipt.mk.injEq]
    constructor
    · rintro ⟨rfl, rfl, rfl, rfl, rfl⟩
      exact ⟨rfl, rfl, rfl, rfl, rfl⟩
    · rintro ⟨rfl, rfl, rfl, rfl, rfl⟩
      exact ⟨rfl, rfl, rfl, rfl, rfl⟩

theorem ofTimestamptz_toTimestamptz_eq_iff (t : OffsetDateTime) :
    ofTimestamptz (toTimestamptz t) = t ↔ t.unixTimestampNanos % 1000 = 0 := by
  obtain ⟨-, -, hexact⟩ := toTimestamptz_bounds t
  rw [OffsetDateTime.ext_iff, ofTimestamptz_toTimestamptz, ← hexact]
  exact eq_comm

/-- **Cutting the time** of a reported receipt changes the report, unless there is nothing to
cut. -/
theorem responseReceipt_truncated_iff (hdigits : P.WritesEveryDigit) {ε : Type}
    {receipt : DeliveryReceipt} {reported : ResponseReceipt}
    (h : (responseReceipt P receipt : Except (Abort ε) ResponseReceipt) = .ok reported) :
    (responseReceipt P receipt.truncated : Except (Abort ε) ResponseReceipt) = .ok reported ↔
      receipt.occurredAt.unixTimestampNanos % 1000 = 0 := by
  obtain ⟨htext, hfields⟩ := responseReceipt_eq_ok_iff.mp h
  rw [responseReceipt_eq_ok_iff, ← ofTimestamptz_toTimestamptz_eq_iff]
  constructor
  · rintro ⟨htext', -⟩
    -- less than a microsecond is lost, so the two texts would differ
    obtain ⟨hafter, hbefore, -⟩ := toTimestamptz_bounds receipt.occurredAt
    rw [← ofTimestamptz_toTimestamptz] at hafter hbefore
    exact hdigits _ _ _ (by omega) (by omega) htext' htext
  · intro hwhole
    refine ⟨?_, hfields⟩
    show P.formatRfc3339 (ofTimestamptz (toTimestamptz receipt.occurredAt)) = _
    rw [hwhole, htext]

/-- The receipt in the answer of an inspect. -/
theorem inspectResponse_lastReceipt_iff {ε : Type} (delivery : DeliveryRecord)
    (receipt : DeliveryReceipt) (reported : ResponseReceipt) :
    (∃ response, (inspectResponse P { delivery with lastReceipt := some receipt } :
        Except (Abort ε) InspectResponse) = .ok response ∧
          response.lastReceipt = some reported) ↔
      (responseReceipt P receipt : Except (Abort ε) ResponseReceipt) = .ok reported := by
  rw [inspectResponse, Option.mapM_some]
  cases hreceipt : (responseReceipt P receipt : Except (Abort ε) ResponseReceipt) with
  | error e => simp [bind, Except.bind]
  | ok r => simp [bind, Except.bind, pure, Except.pure]

/-- Receipts are never lost, so a path that adds none keeps the list. -/
theorem receipts_eq_of_none_new {s t : Sys P} {labels : List (Label P)}
    (hs : (system P).Reachable s) (hpath : (system P).Path s labels t) {id : String}
    (hnone : ∀ a ∈ t.db.receipts id, a ∈ s.db.receipts id) :
    t.db.receipts id = s.db.receipts id := by
  obtain ⟨new, hnew⟩ := (path_evolves hs hpath).receipts id
  have hincreasing := (reachable_inv (hs.path hpath)).ledger id
  rw [← hnew, List.map_append, List.pairwise_append] at hincreasing
  have hempty : new = [] := by
    rw [List.eq_nil_iff_forall_not_mem]
    intro a ha
    have hold : a ∈ s.db.receipts id := hnone a (hnew ▸ List.mem_append_right _ ha)
    exact (hincreasing.2.2 _ (List.mem_map_of_mem hold) _ (List.mem_map_of_mem ha)).ne rfl
  rw [← hnew, hempty, List.append_nil]

section ReadBack

variable {s s' t u : Sys P} {label next : Label P} {labels : List (Label P)} {task : Task P}
  {input : Input} {clock : OffsetDateTime} {id : String} {outcome : DispatchResponseOutcome}
  {reported : ResponseReceipt} {delivery : DeliveryRecord}

/-- **What an inspect answers** after a dispatch has reported a receipt. -/
theorem inspected_of_reported (hs : (sequential P).Reachable s)
    (hstep : (sequential P).step s label s') (haction : label.action = .resume task input)
    (hclock : input.receiptClock = some clock)
    (hanswer : label.observation.answer
      = some (.dispatch (.ok ⟨some id, outcome, some reported⟩)))
    (hpath : (sequential P).Path s' labels t)
    (hnone : ∀ a ∈ t.db.receipts id, a ∈ s'.db.receipts id)
    (hnext : (sequential P).step t next u)
    (hinspect : next.action = .resume (.inspecting delivery) .turn)
    (hid : delivery.deliveryId = id) :
    ∃ receipt, receipt.occurredAt = clock ∧
      responseReceipt P receipt
        = (.ok reported : Except (Abort AdminFlowError) ResponseReceipt) ∧
      next.observation.answer = some (.inspect (inspectResponse P
        { delivery with lastReceipt := some receipt.truncated })) := by
  obtain ⟨dispatched, call, ⟨p, hp, hdispatched⟩, hfor, hcall, hoccurred, hreported, hrun⟩ :=
    hstep.2.reported_inv haction hclock hanswer
  have hfresh := (orderly_of_sequential hs).fresh p hp dispatched hdispatched
  have hlast := lastReceipt_of_recorded (reachable_inv (hs.step hstep).of_restrict) hfresh hfor hrun
  have hkept := receipts_eq_of_none_new (hs.step hstep).of_restrict hpath.of_restrict hnone
  have hread : lastReceipt t.db delivery.deliveryId = some call.receipt.truncated := by
    rw [lastReceipt, hid, hkept, ← hcall]
    exact hlast
  obtain ⟨-, -, -, -, effect, heffect, hobservation, -⟩ := hnext.2.resume_inv hinspect
  obtain rfl : inspectReceipt delivery t.db = effect := Option.some.inj heffect
  refine ⟨call.receipt, hoccurred, hreported, ?_⟩
  rw [hobservation, inspectReceipt, Effect.ended, hread]

end ReadBack

/-- **The receipt of a dispatch and the receipt of an inspect.** In every sequential run, if a
dispatch reports a receipt of a delivery, and no receipt of the delivery is committed before an
inspect reads it, then the inspect reports the same five fields exactly when the clock reading that
dates the receipt is a whole number of microseconds. -/
theorem reported_receipt_read_back (P : Platform) (hdigits : P.WritesEveryDigit)
    {s s' t u : Sys P} {label next : Label P} {labels : List (Label P)}
    (hs : (sequential P).Reachable s) (hstep : (sequential P).step s label s') {task : Task P}
    {input : Input} (haction : label.action = .resume task input) {clock : OffsetDateTime}
    (hclock : input.receiptClock = some clock) {id : String} {outcome : DispatchResponseOutcome}
    {reported : ResponseReceipt}
    (hanswer : label.observation.answer
      = some (.dispatch (.ok ⟨some id, outcome, some reported⟩)))
    (hpath : (sequential P).Path s' labels t)
    (hnone : ∀ a ∈ t.db.receipts id, a ∈ s'.db.receipts id)
    (hnext : (sequential P).step t next u) {delivery : DeliveryRecord}
    (hinspect : next.action = .resume (.inspecting delivery) .turn)
    (hid : delivery.deliveryId = id) :
    (∃ response, next.observation.answer = some (.inspect (.ok response)) ∧
      response.lastReceipt = some reported) ↔ clock.unixTimestampNanos % 1000 = 0 := by
  obtain ⟨receipt, rfl, hreported, hread⟩ :=
    inspected_of_reported hs hstep haction hclock hanswer hpath hnone hnext hinspect hid
  rw [← responseReceipt_truncated_iff hdigits hreported,
    ← inspectResponse_lastReceipt_iff delivery receipt.truncated reported, hread]
  simp only [Option.some.injEq, Answer.inspect.injEq]

/-! ### The first order, delivered and inspected -/

theorem writesEveryDigit_reference : reference.WritesEveryDigit := by
  have htext : ∀ {t : OffsetDateTime} {s : String}, reference.formatRfc3339 t = .ok s →
      Calendar.rfc3339 t.unixTimestampNanos = some s := by
    intro t s h
    simp only [reference] at h
    split at h
    · rename_i s' hs
      rw [hs, Except.ok.inj h]
    · cases h
  intro t t' s hafter hbefore h h'
  exact OffsetDateTime.ext (Calendar.rfc3339_inj hafter hbefore (htext h) (htext h'))

/-- The report of the first order when its receipt is dated by this text. -/
def firstReport (text : String) : ResponseReceipt where
  attempt := 1
  httpStatus := some "200"
  occurredAt := text
  outcome := "delivered"
  responseSha256 := some (sha256Hex reference [])

theorem responseReceipt_first {ε : Type} {clock : OffsetDateTime} {text : String}
    (htext : formatTime reference clock = .ok text) :
    responseReceipt reference
        (deliveredOutcome reference (decodeDelivery (firstOrder.row 0)) [] clock).receipt
      = (.ok (firstReport text) : Except (Abort ε) ResponseReceipt) := by
  simp only [responseReceipt, deliveredOutcome, htext]
  rfl

/-- A sequential run in which the first order is delivered and then inspected. The delivery is
dated by any clock reading. -/
theorem exists_first_read_back {clock : OffsetDateTime} {text : String}
    (htext : formatTime reference clock = .ok text) :
    ∃ s label s' inspect t next u, (sequential reference).Reachable s ∧
      (sequential reference).step s label s' ∧
      label.action = .resume (.posted firstOrder.plugin (decodeDelivery (firstOrder.row 0)))
        (.response (.ok ⟨200, []⟩) clock clock) ∧
      label.observation.answer = some (.dispatch (.ok ⟨some firstOrder.delivery.deliveryId,
        .delivered, some (firstReport text)⟩)) ∧
      (sequential reference).Path s' [inspect] t ∧ t.db = s'.db ∧
      (sequential reference).step t next u ∧
      next.action = .resume (.inspecting (decodeDelivery ((firstOrder.row 0).assign
        (outcomeAssignment 1 .delivered none (firstOrder.row 0))))) .turn ∧
      next.observation.answer = some (.inspect (inspectResponse reference
        { decodeDelivery ((firstOrder.row 0).assign
            (outcomeAssignment 1 .delivered none (firstOrder.row 0))) with
          lastReceipt := lastReceipt t.db firstOrder.delivery.deliveryId })) := by
  have hinit : (sequential reference).Reachable ⟨Db.empty, 0, []⟩ := ⟨[], _, ⟨rfl, rfl⟩, rfl⟩
  have hid : validDeliveryId firstOrder.delivery.deliveryId := by decide +kernel
  obtain ⟨request, hrequest⟩ := exists_signedRequest 2 (decodeDelivery (firstOrder.row 0))
  obtain ⟨s₁, henqueue, hd₁, ha₁, hp₁, hn₁⟩ := @exists_enqueue reference ⟨Db.empty, 0, []⟩ 0
    _ _ _ _ _ firstOrder.accepted List.not_mem_nil List.not_mem_nil (le_refl 0)
  have hs₁ := hinit.step (henqueue.sequential_of_idle rfl)
  obtain ⟨claim, s₂, hclaim, -, hd₂, ha₂, hp₂, hn₂⟩ := @exists_claimed reference s₁ 0
    hs₁.of_restrict firstOrder Db.empty (fun row hrow => nomatch hrow) hd₁ (le_refl 0)
    (le_of_eq hn₁)
  have hs₂ := hs₁.step (hclaim.sequential_of_idle hp₁)
  rw [hp₁] at hp₂
  obtain ⟨s₃, hpost, hdb₃, hp₃, hn₃⟩ := @exists_post reference s₂ 0 _ _ _ 0 0 [] [] request hp₂
    (firstOrder.endpointDiffers_eq_false _ rfl) hrequest (le_refl 0) (le_of_eq hn₂)
  have hs₃ := hs₂.step (hpost.sequential_of_resume rfl)
  have hrow₃ : firstOrder.row 0 ∈ s₃.db.deliveries := Db.mem_of_last (hdb₃ ▸ hd₂)
  obtain ⟨label, s₄, hlabel, -, haction, hanswer, hrow₄, -, hp₄, hn₄⟩ := @exists_delivered reference
    s₃ 1 firstOrder 0 0 1 [] [] hp₃ hrow₃ [] clock (by decide) (by decide) (le_refl 1)
    (by rw [hn₃]; decide)
  obtain ⟨inspect, s₅, hinspect, -, hdb₅, hp₅, hn₅⟩ := exists_inspecting
    firstOrder.operator_allowed firstOrder.active hid hrow₄ (le_of_eq hn₄)
  rw [hp₄] at hp₅
  obtain ⟨next, u, hnext, hresume, hreport⟩ := @exists_inspected reference s₅ 1 _ 1 [] [] hp₅
    (le_refl 1) (le_of_eq hn₅)
  refine ⟨s₃, label, s₄, inspect, s₅, next, u, hs₃, hlabel.sequential_of_resume haction, haction,
    ?_, ?_, hdb₅, hnext.sequential_of_resume hresume, hresume, hreport⟩
  · rw [hanswer, dispatchResponse, responseReceipt_first htext]
    rfl
  · exact TransitionSystem.path_cons.mpr ⟨s₅, hinspect.sequential_of_idle hp₄, rfl⟩

/-- 2026-08-30T00:00:00.123456789Z. -/
def nanosecondReading : OffsetDateTime := ⟨1788048000123456789, by decide⟩

/-- **A receipt dated within a microsecond.** The dispatch reports the nanosecond and the inspect
does not. -/
theorem nanosecond_lost_in_read_back :
    ∃ s label s' labels t next u task input id outcome reported delivery response receipt,
      (sequential reference).Reachable s ∧ (sequential reference).step s label s' ∧
      label.action = .resume task input ∧ input.receiptClock = some nanosecondReading ∧
      label.observation.answer = some (.dispatch (.ok ⟨some id, outcome, some reported⟩)) ∧
      (sequential reference).Path s' labels t ∧ t.db = s'.db ∧
      (sequential reference).step t next u ∧
      next.action = .resume (.inspecting delivery) .turn ∧ delivery.deliveryId = id ∧
      next.observation.answer = some (.inspect (.ok response)) ∧
      response.lastReceipt = some receipt ∧ receipt ≠ reported ∧
      reported.occurredAt = "2026-08-30T00:00:00.123456789Z" ∧
      receipt.occurredAt = "2026-08-30T00:00:00.123456Z" := by
  have htext : formatTime reference nanosecondReading = .ok "2026-08-30T00:00:00.123456789Z" := by
    decide +kernel
  have hcut : reference.formatRfc3339 (ofTimestamptz (toTimestamptz nanosecondReading))
      = .ok "2026-08-30T00:00:00.123456Z" := by
    decide +kernel
  obtain ⟨s, label, s', inspect, t, next, u, hs, hstep, haction, hanswer, hpath, hdb, hnext,
    hinspect, -⟩ := exists_first_read_back htext
  obtain ⟨receipt, hoccurred, hreported, hread⟩ := inspected_of_reported hs hstep haction rfl
    hanswer hpath (fun a ha => hdb ▸ ha) hnext hinspect rfl
  obtain ⟨-, hattempt, hstatus, houtcome, hsha⟩ := responseReceipt_eq_ok_iff.mp hreported
  have hshown : responseReceipt reference receipt.truncated
      = (.ok (firstReport "2026-08-30T00:00:00.123456Z") : Except (Abort AdminFlowError) _) := by
    refine responseReceipt_eq_ok_iff.mpr ⟨?_, hattempt, hstatus, houtcome, hsha⟩
    show reference.formatRfc3339 (ofTimestamptz (toTimestamptz receipt.occurredAt)) = _
    rw [hoccurred]
    exact hcut
  obtain ⟨response, hresponse, hlast⟩ :=
    (inspectResponse_lastReceipt_iff _ receipt.truncated _).mpr hshown
  rw [hresponse] at hread
  refine ⟨s, label, s', _, t, next, u, _, _, _, _, _, _, response, _, hs, hstep, haction, rfl,
    hanswer, hpath, hdb, hnext, hinspect, rfl, hread, hlast, ?_, rfl, rfl⟩
  exact fun h => absurd (congrArg ResponseReceipt.occurredAt h) (by decide)

/-- A receipt dated by a whole microsecond. -/
theorem reported_receipt_read_back_first :
    ∃ s label s' inspect t next u response, (sequential reference).Reachable s ∧
      (sequential reference).step s label s' ∧
      label.observation.answer = some (.dispatch (.ok ⟨some firstOrder.delivery.deliveryId,
        .delivered, some (firstReport "1970-01-01T00:00:00Z")⟩)) ∧
      (sequential reference).Path s' [inspect] t ∧ (sequential reference).step t next u ∧
      next.observation.answer = some (.inspect (.ok response)) ∧
      response.lastReceipt = some (firstReport "1970-01-01T00:00:00Z") := by
  have htext : formatTime reference 0 = .ok "1970-01-01T00:00:00Z" := by decide +kernel
  obtain ⟨s, label, s', inspect, t, next, u, hs, hstep, haction, hanswer, hpath, hdb, hnext,
    hinspect, -⟩ := exists_first_read_back htext
  obtain ⟨response, hresponse, hlast⟩ := (reported_receipt_read_back reference
    writesEveryDigit_reference hs hstep haction rfl hanswer hpath (fun a ha => hdb ▸ ha) hnext
    hinspect rfl).mpr (by decide)
  exact ⟨s, label, s', inspect, t, next, u, response, hs, hstep, hanswer, hpath, hnext, hresponse,
    hlast⟩

end OutboundWebhook
