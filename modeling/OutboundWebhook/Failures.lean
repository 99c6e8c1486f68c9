import OutboundWebhook.Dispatch
import OutboundWebhook.Native

/-!
# Every failure has a foreseen cause

The source has many places at which a call may end with a runtime failure or a panic: each
constraint of the tables, each `expect`, each sum of times, each error that no branch expects. In a
reachable state eleven causes are left. This module lists them with what has to be the case for each
(`Call.Fails`, `Task.Fails`) and proves the list exact: a step fails in these cases and in no other.

The system is the one whose database answers. Two things that can end a call at any statement are
outside it: a failure of the database, which `Faults` adds, and the deactivation of the instance in
the middle of a call, which closes its connections. So are clocks beyond the years of
`OffsetDateTime`, which panic where they are read.

What the list leaves out is the point. No `CHECK`, key or foreign key of either table is ever
violated but the one on the status of a receipt; no `expect` on a validated number fires; the error
that no admin operation expects never reaches one; and a replay that an active instance admits does
not fail at all.

## Main results

* `failure_causes` — when a step ends a call with a failure, and with which
-/

namespace OutboundWebhook

variable {P : Platform}

/-! ### The causes -/

/-- The instance a call is made of. -/
def Call.plugin : Call P → OutboundWebhookPlugin P
  | .enqueue plugin _ _ _ => plugin
  | .dispatch plugin _ => plugin
  | .inspect plugin _ _ => plugin
  | .replay plugin _ _ => plugin

/-- The checks a call passes before it needs its instance to be active. -/
def Call.admitted : Call P → Bool
  | .enqueue plugin caller _ request =>
    plugin.config.producerAllowed caller && validEventName request.eventId
      && validEventName request.eventType
  | .dispatch plugin caller => plugin.config.adminAllowed caller
  | .inspect plugin caller deliveryId =>
    plugin.config.adminAllowed caller && validDeliveryId deliveryId
  | .replay plugin caller deliveryId =>
    plugin.config.adminAllowed caller && validDeliveryId deliveryId

/-- The failures of the first stretch of a call. -/
inductive Call.Fails (db : Db) : Call P → Abort RuntimeFailure → Prop
  | inactive {call : Call P} (hadmitted : call.admitted) (hinactive : call.plugin.active = none) :
      Fails db call (.error (.pluginFailure "Outbound Webhook Plugin is not active"))
  /-- Two events whose digests begin with the same 24 octets. -/
  | collision {plugin : OutboundWebhookPlugin P} {caller : Option String} {now : OffsetDateTime}
      {request : EnqueueRequest} {delivery : NewDelivery} {row : DeliveryRow}
      (hnew : newDelivery plugin caller now request = .ok delivery) (hrow : row ∈ db.deliveries)
      (hdigest : stableDeliveryId P row.endpointUrl row.eventId
        = stableDeliveryId P plugin.config.endpointUrl request.eventId)
      (hevent : ∀ other ∈ db.deliveries, other.eventId ≠ request.eventId) :
      Fails db (.enqueue plugin caller now request)
        (.error (storeFailure (.invariant "delivery identity collision")))

/-- The task records a receipt that the table has room for. -/
inductive Task.Records : Task P → Input → DeliveryRecord → OffsetDateTime → Prop
  | moved {plugin : OutboundWebhookPlugin P} {prepared : PreparedWebhook P plugin.config}
      {delivery : DeliveryRecord} {now : OffsetDateTime}
      (hdiffers : endpointDiffers prepared delivery = true) :
      Records (.claimed plugin prepared delivery) (.clock now) delivery now
  | finished {plugin : OutboundWebhookPlugin P} {delivery : DeliveryRecord}
      {response : Except ClientInvocationError SendResponse}
      {receivedAt decidedAt : OffsetDateTime} (hstorable : HasStorableStatus response)
      (htime : HasRetryTime plugin.config delivery decidedAt response) :
      Records (.posted plugin delivery) (.response response receivedAt decidedAt) delivery
        receivedAt

/-- The HTTP port has failed. -/
def Input.PortFailed : Input → Prop
  | .response result _ _ => IsRuntimeFailure result
  | _ => False

/-- The failures of a later stretch. -/
inductive Task.Fails (begins : Timestamptz) (db : Db) :
    Task P → Input → Abort RuntimeFailure → Prop
  | unsignedClock {plugin : OutboundWebhookPlugin P} {prepared : PreparedWebhook P plugin.config}
      {delivery : DeliveryRecord} {now : OffsetDateTime} {error : String}
      (hsame : endpointDiffers prepared delivery = false)
      (hformat : P.formatRfc3339 now = .error error) :
      Fails begins db (.claimed plugin prepared delivery) (.clock now)
        (.error (.pluginFailure ("Outbound Webhook timestamp could not be encoded: " ++ error)))
  | unsignedKey {plugin : OutboundWebhookPlugin P} {prepared : PreparedWebhook P plugin.config}
      {delivery : DeliveryRecord} {now : OffsetDateTime} {timestamp : String}
      (hsame : endpointDiffers prepared delivery = false)
      (hformat : P.formatRfc3339 now = .ok timestamp)
      (hkey : P.hmacSha256 prepared.signingKey = none) :
      Fails begins db (.claimed plugin prepared delivery) (.clock now)
        (.error (.pluginFailure "Outbound Webhook signing secret is invalid"))
  | notAnI32 {plugin : OutboundWebhookPlugin P} {delivery : DeliveryRecord}
      {response : SendResponse} {receivedAt decidedAt : OffsetDateTime}
      (hstatus : ¬FitsI32 response.status) :
      Fails begins db (.posted plugin delivery) (.response (.ok response) receivedAt decidedAt)
        (.panic "HTTP status")
  | notAStatus {plugin : OutboundWebhookPlugin P} {delivery : DeliveryRecord}
      {response : SendResponse} {receivedAt decidedAt : OffsetDateTime}
      (hfits : FitsI32 response.status)
      (hstatus : ¬(100 ≤ response.status ∧ response.status ≤ 599)) :
      Fails begins db (.posted plugin delivery) (.response (.ok response) receivedAt decidedAt)
        (.error (storeFailure (.database "insert delivery receipt" "webhook_attempt_status_valid")))
  /-- The next attempt would be due after the year 9999. -/
  | outOfRange {plugin : OutboundWebhookPlugin P} {delivery : DeliveryRecord}
      {response : Except ClientInvocationError SendResponse} {receivedAt decidedAt : OffsetDateTime}
      (htime : ¬HasRetryTime plugin.config delivery decidedAt response) :
      Fails begins db (.posted plugin delivery) (.response response receivedAt decidedAt)
        (.panic "resulting value is out of range")
  | stale {task : Task P} {input : Input} {delivery : DeliveryRecord} {occurredAt : OffsetDateTime}
      (hrecords : task.Records input delivery occurredAt) (hlive : ¬IsLive db delivery begins) :
      Fails begins db task input
        (.error (storeFailure (.invariant "record fenced delivery outcome")))
  | portFailed {plugin : OutboundWebhookPlugin P} {delivery : DeliveryRecord}
      {error : RuntimeFailure} {receivedAt decidedAt : OffsetDateTime}
      (hlive : IsLive db delivery begins) :
      Fails begins db (.posted plugin delivery)
        (.response (.error (.runtime error)) receivedAt decidedAt) (.error error)
  | unreportedTime {task : Task P} {input : Input} {delivery : DeliveryRecord}
      {occurredAt : OffsetDateTime} {error : String}
      (hrecords : task.Records input delivery occurredAt) (hport : ¬input.PortFailed)
      (hlive : IsLive db delivery begins) (hformat : P.formatRfc3339 occurredAt = .error error) :
      Fails begins db task input (.panic "stored PostgreSQL timestamp")
  | uninspectedTime {delivery : DeliveryRecord} {receipt : DeliveryReceipt} {error : String}
      (hreceipt : lastReceipt db delivery.deliveryId = some receipt)
      (hformat : P.formatRfc3339 receipt.occurredAt = .error error) :
      Fails begins db (.inspecting delivery) .turn (.panic "stored PostgreSQL timestamp")

/-! ### Responses -/

section Responses

variable {failure : Abort RuntimeFailure}

theorem responseReceipt_error_iff {ε : Type} {receipt : DeliveryReceipt} {abort : Abort ε} :
    (responseReceipt P receipt : Except (Abort ε) ResponseReceipt) = .error abort ↔
      (∃ error, P.formatRfc3339 receipt.occurredAt = .error error) ∧
        abort = .panic "stored PostgreSQL timestamp" := by
  rw [responseReceipt, formatTime]
  cases P.formatRfc3339 receipt.occurredAt <;> simp [eq_comm]

theorem not_error_of_responseReceipt {ε : Type} {receipt : DeliveryReceipt}
    {reported : ResponseReceipt}
    (h : (responseReceipt P receipt : Except (Abort ε) ResponseReceipt) = .ok reported) :
    ¬∃ error, P.formatRfc3339 receipt.occurredAt = .error error := by
  intro herror
  rw [responseReceipt_error_iff.mpr ⟨herror, rfl⟩] at h
  cases h

/-- A dispatch that reports its receipt fails when the time of the receipt cannot be written. -/
theorem nativeDispatch_dispatchResponse {deliveryId : String} {outcome : DispatchResponseOutcome}
    {receipt : DeliveryReceipt} :
    (nativeDispatch (dispatchResponse P deliveryId outcome receipt)).failure = some failure ↔
      (∃ error, P.formatRfc3339 receipt.occurredAt = .error error) ∧
        failure = .panic "stored PostgreSQL timestamp" := by
  unfold dispatchResponse
  cases hreceipt :
      (responseReceipt P receipt : Except (Abort AdminFlowError) ResponseReceipt) with
  | error abort =>
    obtain ⟨herror, rfl⟩ := responseReceipt_error_iff.mp hreceipt
    have hfailure : ((nativeDispatch (.error (.panic "stored PostgreSQL timestamp"))).failure
        = some failure) ↔ .panic "stored PostgreSQL timestamp" = failure := Option.some_inj
    exact hfailure.trans ⟨fun h => ⟨herror, h.symm⟩, fun h => h.2.symm⟩
  | ok reported =>
    have hok := not_error_of_responseReceipt hreceipt
    simp [bind, Except.bind, pure, Except.pure, nativeDispatch, nativeAdmin, NativeResult.failure,
      hok]

theorem nativeInspect_inspectResponse {delivery : DeliveryRecord} :
    (nativeInspect (inspectResponse P delivery)).failure = some failure ↔
      (∃ receipt error, delivery.lastReceipt = some receipt ∧
        P.formatRfc3339 receipt.occurredAt = .error error) ∧
        failure = .panic "stored PostgreSQL timestamp" := by
  unfold inspectResponse
  cases hlast : delivery.lastReceipt with
  | none =>
    simp [bind, Except.bind, pure, Except.pure, nativeInspect, nativeAdmin, NativeResult.failure]
  | some receipt =>
    rw [Option.mapM_some]
    cases hreceipt :
        (responseReceipt P receipt : Except (Abort AdminFlowError) ResponseReceipt) with
    | error abort =>
      obtain ⟨herror, rfl⟩ := responseReceipt_error_iff.mp hreceipt
      have hfailure : ((nativeInspect (.error (.panic "stored PostgreSQL timestamp"))).failure
          = some failure) ↔ .panic "stored PostgreSQL timestamp" = failure := Option.some_inj
      have hreceipts : ∃ receipt' error, some receipt = some receipt' ∧
          P.formatRfc3339 receipt'.occurredAt = .error error := by
        obtain ⟨error, herror⟩ := herror
        exact ⟨receipt, error, rfl, herror⟩
      exact hfailure.trans ⟨fun h => ⟨hreceipts, h.symm⟩, fun h => h.2.symm⟩
    | ok reported =>
      have hok := not_error_of_responseReceipt hreceipt
      simp [bind, Except.bind, pure, Except.pure, Functor.map, Except.map, nativeInspect,
        nativeAdmin, NativeResult.failure, hok]

end Responses

/-! ### Outcomes -/

section Outcomes

variable {db : Db} {begins : Timestamptz} {delivery : DeliveryRecord} {call : OutcomeCall}
  {failure : Abort RuntimeFailure}

/-- A live attempt is one whose fence holds. -/
theorem isLive_iff : IsLive db delivery begins ↔ ∃ row ∈ db.deliveries,
    row.isFenced begins delivery.deliveryId delivery.replayCount delivery.attempts := by
  constructor
  · intro hlive
    obtain ⟨row, hrow, hnumber, hstatus, hlease⟩ := hlive.row
    obtain ⟨hmem, hid⟩ := Db.delivery_eq_some_iff.mp hrow
    exact ⟨row, hmem, DeliveryRow.isFenced_iff.mpr ⟨hid, hnumber, hstatus, hlease⟩⟩
  · rintro ⟨row, hmem, hfenced⟩
    obtain ⟨hid, hnumber, hstatus, hlease⟩ := DeliveryRow.isFenced_iff.mp hfenced
    exact ⟨row, hid ▸ Db.delivery_of_mem hmem, hnumber, hstatus, hlease⟩

/-- **Why `record_outcome` fails.** Its checks in their order: the status as an `i32`, the status
as a receipt stores it, the fence. -/
theorem OutcomeCall.For.run_cases (hfor : call.For delivery) (hknown : Known db delivery)
    (begins : Timestamptz) :
    (∃ status, call.receipt.httpStatus = some status ∧ ¬FitsI32 status ∧
      call.run begins db = .error (.panic "HTTP status")) ∨
    (∃ status, call.receipt.httpStatus = some status ∧ FitsI32 status ∧
      ¬(100 ≤ status ∧ status ≤ 599) ∧ call.run begins db = .error (.error
        (.database "insert delivery receipt" "webhook_attempt_status_valid"))) ∨
    (∀ status ∈ call.receipt.httpStatus, 100 ≤ status ∧ status ≤ 599) ∧
      ((¬IsLive db delivery begins ∧
        call.run begins db = .error (.error (.invariant "record fenced delivery outcome"))) ∨
      (IsLive db delivery begins ∧ ∃ db', call.run begins db = .ok ((), db'))) := by
  have hcycle : FitsI32 call.replayCount := by
    have := hknown.replayCount
    rw [hfor.replayCount]
    exact ⟨by omega, by omega⟩
  have hbounds : 1 ≤ call.receipt.attempt ∧ call.receipt.attempt ≤ 100 := by
    rw [hfor.attempt]
    exact ⟨hknown.attempts.1, hknown.attempts.2.trans hknown.maxAttempts⟩
  have hattempt : FitsI32 call.receipt.attempt := ⟨by omega, by omega⟩
  by_cases hfits : ∀ status ∈ call.receipt.httpStatus, FitsI32 status
  · refine .inr ?_
    by_cases hstorable : ∀ status ∈ call.receipt.httpStatus, 100 ≤ status ∧ status ≤ 599
    · refine .inr ⟨hstorable, ?_⟩
      have hcheck : (call.receipt.toRow call.deliveryId call.replayCount).violation = none :=
        AttemptRow.violation_eq_none_iff.mpr ⟨hbounds, hstorable⟩
      by_cases hlive : IsLive db delivery begins
      · obtain ⟨row, hmem, hfenced⟩ := isLive_iff.mp hlive
        rw [← hfor.deliveryId, ← hfor.replayCount, ← hfor.attempt] at hfenced
        obtain ⟨db', hok, -⟩ := recordOutcome_eq_ok call.status call.nextAvailableAt
          ⟨hcycle, hattempt, hfits⟩ hcheck hmem hfenced
        exact .inr ⟨hlive, db', hok⟩
      · refine .inl ⟨hlive, ?_⟩
        obtain ⟨row, hrow, -⟩ := hknown.row
        have hfkey : call.deliveryId ∈ db.deliveries.map DeliveryRow.deliveryId := by
          obtain ⟨hmem, hid⟩ := Db.delivery_eq_some_iff.mp hrow
          rw [hfor.deliveryId, ← hid]
          exact List.mem_map_of_mem hmem
        obtain ⟨n, db₁, hinsert, hd, -⟩ :=
          insertAttempt_eq_ok "insert delivery receipt" hcheck hfkey
        have hnone : ∀ row ∈ db₁.deliveries, row.isFenced begins call.deliveryId call.replayCount
            call.receipt.attempt = false := by
          intro row hrow
          rw [hd] at hrow
          rw [hfor.deliveryId, hfor.replayCount, hfor.attempt, Bool.eq_false_iff]
          exact fun hfenced => hlive (isLive_iff.mpr ⟨row, hrow, hfenced⟩)
        rw [OutcomeCall.run, recordOutcome_of_fits ⟨hcycle, hattempt, hfits⟩, bind_of_eq_ok hinsert,
          bind_of_eq_ok (updateDeliveries_of_no_row hnone)]
        rfl
    · refine .inl ?_
      simp only [not_forall] at hstorable
      obtain ⟨status, hstatus, hbad⟩ := hstorable
      refine ⟨status, hstatus, hfits status hstatus, hbad, ?_⟩
      have hviolation : (call.receipt.toRow call.deliveryId call.replayCount).violation
          = some "webhook_attempt_status_valid" := by
        have hnumber : 1 ≤ (call.receipt.toRow call.deliveryId call.replayCount).attempt ∧
            (call.receipt.toRow call.deliveryId call.replayCount).attempt ≤ 100 := hbounds
        rw [AttemptRow.violation, if_neg (not_not.mpr hnumber), if_pos]
        exact fun hall => hbad (hall status hstatus)
      rw [OutcomeCall.run,
        recordOutcome_of_violation ⟨hcycle, hattempt, hfits⟩ (by simp [hviolation]), hviolation]
      rfl
  · refine .inl ?_
    simp only [not_forall] at hfits
    obtain ⟨status, hstatus, hbad⟩ := hfits
    have hstatus : call.receipt.httpStatus = some status := hstatus
    refine ⟨status, hstatus, hbad, ?_⟩
    rw [OutcomeCall.run, recordOutcome, i32_bind hcycle, i32_bind hattempt, hstatus]
    exact bind_of_eq_error (optionI32_of_not_fits hbad _) _

/-- A conclusion fails with what refuses its outcome, or else with its answer. -/
theorem Conclusion.failure_iff {conclusion : Conclusion} (hfor : conclusion.call.For delivery)
    (hknown : Known db delivery) :
    (conclusion.record begins db : Effect P).observation.failure = some failure ↔
      (∃ status, conclusion.call.receipt.httpStatus = some status ∧ ¬FitsI32 status ∧
        failure = .panic "HTTP status") ∨
      (∃ status, conclusion.call.receipt.httpStatus = some status ∧ FitsI32 status ∧
        ¬(100 ≤ status ∧ status ≤ 599) ∧ failure = .error (storeFailure
          (.database "insert delivery receipt" "webhook_attempt_status_valid"))) ∨
      (∀ status ∈ conclusion.call.receipt.httpStatus, 100 ≤ status ∧ status ≤ 599) ∧
        ((¬IsLive db delivery begins ∧ failure = .error (storeFailure
          (.invariant "record fenced delivery outcome"))) ∨
        (IsLive db delivery begins ∧
          (nativeDispatch conclusion.answer).failure = some failure)) := by
  rcases hfor.run_cases hknown begins with ⟨status, hstatus, hfits, hrun⟩ |
    ⟨status, hstatus, hfits, hbad, hrun⟩ | ⟨hstorable, ⟨hlive, hrun⟩ | ⟨hlive, db', hrun⟩⟩
  · have hvalue : (conclusion.record begins db : Effect P).observation.failure
        = some (.panic "HTTP status") := by
      simp only [Conclusion.record, transact_of_eq_error hrun]
      rfl
    rw [hvalue, Option.some.injEq]
    constructor
    · rintro rfl
      exact .inl ⟨status, hstatus, hfits, rfl⟩
    · rintro (⟨-, -, -, rfl⟩ | ⟨status', hstatus', hfits', -⟩ | ⟨hstorable, -⟩)
      · rfl
      · exact absurd (Option.some.inj (hstatus.symm.trans hstatus') ▸ hfits') hfits
      · have := hstorable status hstatus
        exact absurd ⟨by omega, by omega⟩ hfits
  · have hvalue : (conclusion.record begins db : Effect P).observation.failure
        = some (.error (storeFailure
          (.database "insert delivery receipt" "webhook_attempt_status_valid"))) := by
      simp only [Conclusion.record, transact_of_eq_error hrun]
      rfl
    rw [hvalue, Option.some.injEq]
    constructor
    · rintro rfl
      exact .inr (.inl ⟨status, hstatus, hfits, hbad, rfl⟩)
    · rintro (⟨status', hstatus', hfits', -⟩ | ⟨-, -, -, -, rfl⟩ | ⟨hstorable, -⟩)
      · exact absurd (Option.some.inj (hstatus.symm.trans hstatus') ▸ hfits) hfits'
      · rfl
      · exact absurd (hstorable status hstatus) hbad
  · have hvalue : (conclusion.record begins db : Effect P).observation.failure
        = some (.error (storeFailure (.invariant "record fenced delivery outcome"))) := by
      simp only [Conclusion.record, transact_of_eq_error hrun]
      rfl
    rw [hvalue, Option.some.injEq]
    constructor
    · rintro rfl
      exact .inr (.inr ⟨hstorable, .inl ⟨hlive, rfl⟩⟩)
    · rintro (⟨status, hstatus, hfits, -⟩ | ⟨status, hstatus, -, hbad, -⟩ |
        ⟨-, ⟨-, rfl⟩ | ⟨hlive', -⟩⟩)
      · have := hstorable status hstatus
        exact absurd ⟨by omega, by omega⟩ hfits
      · exact absurd (hstorable status hstatus) hbad
      · rfl
      · exact absurd hlive' hlive
  · have hvalue : (conclusion.record begins db : Effect P).observation.failure
        = (nativeDispatch conclusion.answer).failure := by
      simp only [Conclusion.record, transact_of_eq_ok hrun]
      rfl
    rw [hvalue]
    constructor
    · intro hanswer
      exact .inr (.inr ⟨hstorable, .inr ⟨hlive, hanswer⟩⟩)
    · rintro (⟨status, hstatus, hfits, -⟩ | ⟨status, hstatus, -, hbad, -⟩ |
        ⟨-, ⟨hlive', -⟩ | ⟨-, hanswer⟩⟩)
      · have := hstorable status hstatus
        exact absurd ⟨by omega, by omega⟩ hfits
      · exact absurd (hstorable status hstatus) hbad
      · exact absurd hlive hlive'
      · exact hanswer

end Outcomes

/-! ### The first stretch of a call -/

/-- The id of a stored delivery is the digest of its endpoint and its event. -/
theorem Sys.Inv.deliveryId_of_mem {s : Sys P} (hinv : s.Inv) {row : DeliveryRow}
    (hrow : row ∈ s.db.deliveries) :
    row.deliveryId = stableDeliveryId P row.endpointUrl row.eventId := by
  obtain ⟨plugin, request, delivery, henqueued, hcontent⟩ :=
    hinv.authentic _ _ (Db.life_of_mem hrow)
  have hid : row.deliveryId = delivery.deliveryId := congrArg Content.deliveryId hcontent
  have hevent : row.eventId = delivery.eventId := congrArg Content.eventId hcontent
  have hurl : row.endpointUrl = delivery.endpointUrl := congrArg Content.endpointUrl hcontent
  rw [hid, hevent, hurl, henqueued.deliveryId, henqueued.eventId, henqueued.endpointUrl]

section FirstStretch

variable {plugin : OutboundWebhookPlugin P} {caller : Option String}
  {failure : Abort RuntimeFailure}

theorem OutboundWebhookPlugin.prepared_of_none (h : plugin.active = none) :
    plugin.prepared = .error (.pluginFailure "Outbound Webhook Plugin is not active") := by
  rw [OutboundWebhookPlugin.prepared, h]

theorem OutboundWebhookPlugin.prepared_of_some {prepared : PreparedWebhook P plugin.config}
    (h : plugin.active = some prepared) : plugin.prepared = .ok prepared := by
  rw [OutboundWebhookPlugin.prepared, h]

/-- Before it calls the store, an enqueue fails only because its instance is not active. -/
theorem newDelivery_runtime_iff {now : OffsetDateTime} {request : EnqueueRequest}
    {error : RuntimeFailure} :
    newDelivery plugin caller now request = .error (.runtime error) ↔
      (Call.enqueue plugin caller now request).admitted ∧ plugin.active = none ∧
        error = .pluginFailure "Outbound Webhook Plugin is not active" := by
  rw [newDelivery, Call.admitted]
  by_cases hallowed : plugin.config.producerAllowed caller = true
  · by_cases hnames :
        validEventName request.eventId = true ∧ validEventName request.eventType = true
    · cases hactive : plugin.active with
      | none =>
        simp [hallowed, hnames, OutboundWebhookPlugin.prepared_of_none hactive, eq_comm]
      | some prepared =>
        simp only [hallowed, hnames, OutboundWebhookPlugin.prepared_of_some hactive, Bool.not_true,
          Bool.or_self, Bool.false_eq_true, if_false]
        split <;> simp
    · have hnames' : (!validEventName request.eventId || !validEventName request.eventType)
          = true := by
        rw [not_and_or] at hnames
        simpa using hnames
      simp only [hallowed, hnames']
      simp [hnames]
  · simp [hallowed]

theorem insertOrGet_failure_iff {s : Sys P} (hinv : s.Inv) {now : OffsetDateTime}
    {request : EnqueueRequest} {delivery : NewDelivery}
    (hnew : newDelivery plugin caller now request = .ok delivery) (begins : Timestamptz) :
    (Answer.enqueue (enqueueAnswer delivery.deliveryId
        (transact (insertOrGet begins delivery) s.db).1)).failure = some failure ↔
      ((∃ row ∈ s.db.deliveries, stableDeliveryId P row.endpointUrl row.eventId
          = stableDeliveryId P plugin.config.endpointUrl request.eventId) ∧
        ∀ other ∈ s.db.deliveries, other.eventId ≠ request.eventId) ∧
        failure = .error (storeFailure (.invariant "delivery identity collision")) := by
  have henqueued := enqueued_of_newDelivery hnew
  have hmax := henqueued.maxAttempts_bounds
  have hevents : delivery.eventId ∉ s.db.deliveries.map DeliveryRow.eventId ↔
      ∀ other ∈ s.db.deliveries, other.eventId ≠ request.eventId := by
    rw [henqueued.eventId, List.mem_map]
    exact ⟨fun h other hother heq => h ⟨other, hother, heq⟩,
      fun h ⟨other, hother, heq⟩ => h other hother heq⟩
  have hids : delivery.deliveryId ∈ s.db.deliveries.map DeliveryRow.deliveryId ↔
      ∃ row ∈ s.db.deliveries, stableDeliveryId P row.endpointUrl row.eventId
        = stableDeliveryId P plugin.config.endpointUrl request.eventId := by
    rw [henqueued.deliveryId, List.mem_map]
    refine exists_congr fun row => and_congr_right fun hrow => ?_
    rw [hinv.deliveryId_of_mem hrow]
  rw [← hevents, ← hids]
  by_cases hevent : delivery.eventId ∈ s.db.deliveries.map DeliveryRow.eventId
  · obtain ⟨row, hrow, hkey⟩ := List.mem_map.mp hevent
    have hlookup := KeyedTable.lookup_of_mem s.db.deliveries_event_id_key hrow
    rw [hkey] at hlookup
    have hrun : insertOrGet begins delivery s.db = _ := insertOrGet_of_event hmax hlookup
    rw [transact_of_eq_ok hrun]
    refine iff_of_false ?_ (fun h => h.1.2 hevent)
    dsimp only
    split <;> simp [enqueueAnswer, Answer.failure, nativeEnqueue, NativeResult.failure]
  · by_cases hid : delivery.deliveryId ∈ s.db.deliveries.map DeliveryRow.deliveryId
    · have hrun : insertOrGet begins delivery s.db = _ := insertOrGet_of_collision hmax hid hevent
      rw [transact_of_eq_error hrun]
      have hvalue : (Answer.enqueue (enqueueAnswer delivery.deliveryId
          (.error (.error (.invariant "delivery identity collision"))))).failure
            = some (.error (storeFailure (.invariant "delivery identity collision"))) := rfl
      rw [hvalue, Option.some.injEq]
      exact ⟨fun h => ⟨⟨hid, hevent⟩, h.symm⟩, fun h => h.2.symm⟩
    · obtain ⟨db', hok, -⟩ := insertOrGet_of_free begins hmax hid hevent
      rw [transact_of_eq_ok hok]
      exact iff_of_false (by simp [enqueueAnswer, Answer.failure, nativeEnqueue,
        NativeResult.failure]) (fun h => hid h.1.1)

/-- The admin calls fail in their first stretch only if their instance is not active. -/
theorem Call.fails_iff_of_admin {db : Db} {call : Call P}
    (hcall : ∀ plugin caller now request, call ≠ .enqueue plugin caller now request) :
    call.Fails db failure ↔ call.admitted ∧ call.plugin.active = none ∧
      failure = .error (.pluginFailure "Outbound Webhook Plugin is not active") := by
  constructor
  · intro h
    cases h with
    | inactive hadmitted hinactive => exact ⟨hadmitted, hinactive, rfl⟩
    | collision => exact absurd rfl (hcall _ _ _ _)
  · rintro ⟨hadmitted, hinactive, rfl⟩
    exact .inactive hadmitted hinactive

/-- A call on one delivery fails in its first stretch only if its instance is not active. -/
theorem adminRequest_failure_iff {ρ : Type} (answer : Except (Abort AdminFlowError) ρ → Answer)
    (forbidden invalidDelivery : AdminFlowError) (db : Db) {deliveryId : String} {effect : Effect P}
    (hforbidden : (answer (.error (.error forbidden))).failure = none)
    (hinvalid : (answer (.error (.error invalidDelivery))).failure = none)
    (hruntime : ∀ error, (answer (.error (.error (.runtime error)))).failure = some (.error error))
    (herror : ∀ error, adminRequest plugin caller deliveryId forbidden invalidDelivery .runtime
      = .error error → effect = .ended (answer (.error (.error error))) db)
    (hok : adminRequest plugin caller deliveryId forbidden invalidDelivery .runtime = .ok () →
      effect.observation.failure = none) :
    effect.observation.failure = some failure ↔
      (plugin.config.adminAllowed caller && validDeliveryId deliveryId) ∧ plugin.active = none ∧
        failure = .error (.pluginFailure "Outbound Webhook Plugin is not active") := by
  have hended : ∀ error : AdminFlowError,
      (Effect.ended (answer (.error (.error error))) db : Effect P).observation.failure
        = (answer (.error (.error error))).failure := fun _ => rfl
  rw [adminRequest] at herror hok
  by_cases hallowed : plugin.config.adminAllowed caller = true
  · by_cases hvalid : validDeliveryId deliveryId = true
    · cases hactive : plugin.active with
      | none =>
        rw [herror (.runtime (.pluginFailure "Outbound Webhook Plugin is not active"))
          (by simp [hallowed, hvalid, OutboundWebhookPlugin.prepared_of_none hactive]), hended,
          hruntime]
        simp [hallowed, hvalid, eq_comm]
      | some prepared =>
        rw [hok (by simp [hallowed, hvalid, OutboundWebhookPlugin.prepared_of_some hactive])]
        simp
    · rw [herror invalidDelivery (by simp [hallowed, hvalid]), hended, hinvalid]
      simp [hvalid]
  · rw [herror forbidden (by simp [hallowed]), hended, hforbidden]
    simp [hallowed]

/-- **When the first stretch of a call fails.** -/
theorem Call.failure_iff {s : Sys P} (hinv : s.Inv) (call : Call P) (begins : Timestamptz)
    (locked : List String) :
    (call.start begins locked s.db).observation.failure = some failure ↔
      call.Fails s.db failure := by
  cases call with
  | enqueue plugin caller now request =>
    rw [Call.start, enqueueDelivery]
    cases hnew : newDelivery plugin caller now request with
    | error error =>
      cases error with
      | domain error =>
        refine iff_of_false (fun h => by cases h) ?_
        intro h
        cases h with
        | inactive hadmitted hinactive =>
          rw [newDelivery_runtime_iff.mpr ⟨hadmitted, hinactive, rfl⟩] at hnew
          cases hnew
        | collision hnew' => cases hnew.symm.trans hnew'
      | runtime error =>
        obtain ⟨hadmitted, hinactive, rfl⟩ := newDelivery_runtime_iff.mp hnew
        constructor
        · intro h
          obtain rfl := Option.some.inj h
          exact .inactive hadmitted hinactive
        · intro h
          cases h with
          | inactive => rfl
          | collision hnew' => cases hnew.symm.trans hnew'
    | ok delivery =>
      have hactive : ¬((Call.enqueue plugin caller now request).admitted ∧
          plugin.active = none) := by
        rintro ⟨hadmitted, hinactive⟩
        rw [newDelivery_runtime_iff.mpr ⟨hadmitted, hinactive, rfl⟩] at hnew
        cases hnew
      refine (insertOrGet_failure_iff hinv hnew begins).trans ⟨?_, ?_⟩
      · rintro ⟨⟨⟨row, hrow, hdigest⟩, hevent⟩, rfl⟩
        exact .collision hnew hrow hdigest hevent
      · intro h
        cases h with
        | inactive hadmitted hinactive => exact absurd ⟨hadmitted, hinactive⟩ hactive
        | collision _ hrow hdigest hevent => exact ⟨⟨⟨_, hrow, hdigest⟩, hevent⟩, rfl⟩
  | dispatch plugin caller =>
    rw [Call.fails_iff_of_admin (by simp), Call.start, dispatchDelivery, Call.admitted, Call.plugin]
    by_cases hallowed : plugin.config.adminAllowed caller = true
    · cases hactive : plugin.active with
      | none =>
        rw [OutboundWebhookPlugin.prepared_of_none hactive]
        simp [hallowed, Effect.ended, Observation.failure, Answer.failure, nativeDispatch,
          nativeAdmin, NativeResult.failure, eq_comm]
      | some prepared =>
        obtain ⟨db', hclaim, -⟩ := hinv.claim plugin begins locked
        rw [OutboundWebhookPlugin.prepared_of_some hactive]
        simp only [hallowed, hclaim, Bool.not_true, Bool.false_eq_true, if_false]
        refine iff_of_false ?_ (by simp)
        cases s.db.candidate begins locked plugin.config.queueName with
        | none => exact fun h => by cases h
        | some row => exact fun h => by cases h
    · simp [hallowed, Effect.ended, Observation.failure, Answer.failure, nativeDispatch,
        nativeAdmin, NativeResult.failure]
  | inspect plugin caller deliveryId =>
    rw [Call.fails_iff_of_admin (by simp)]
    refine adminRequest_failure_iff .inspect (.inspect .forbidden) (.inspect .invalidDelivery) s.db
      rfl rfl (fun _ => rfl) ?_ ?_
    · intro error hrequest
      simp only [Call.start, inspectDelivery, hrequest]
    · intro hrequest
      simp only [Call.start, inspectDelivery, hrequest]
      cases loadDelivery s.db deliveryId with
      | none => rfl
      | some delivery => rfl
  | replay plugin caller deliveryId =>
    rw [Call.fails_iff_of_admin (by simp)]
    refine adminRequest_failure_iff .replay (.replay .forbidden) (.replay .invalidDelivery) s.db
      rfl rfl (fun _ => rfl) ?_ ?_
    · intro error hrequest
      simp only [Call.start, replayDelivery, hrequest]
    · intro hrequest
      simp only [Call.start, replayDelivery, hrequest]
      cases loadDelivery s.db deliveryId with
      | none => rfl
      | some delivery => rfl

end FirstStretch

/-! ### A later stretch -/

section NextStretch

variable {begins : Timestamptz} {failure : Abort RuntimeFailure}

/-- A request is not signed when the clock cannot be written or the key is refused. -/
theorem signedRequest_error_iff {config : OutboundWebhookConfig}
    {prepared : PreparedWebhook P config} {delivery : DeliveryRecord} {now : OffsetDateTime}
    {error : RuntimeFailure} :
    signedRequest prepared delivery now = .error error ↔
      (∃ text, P.formatRfc3339 now = .error text ∧
        error = .pluginFailure ("Outbound Webhook timestamp could not be encoded: " ++ text)) ∨
      ∃ timestamp, P.formatRfc3339 now = .ok timestamp ∧ P.hmacSha256 prepared.signingKey = none ∧
        error = .pluginFailure "Outbound Webhook signing secret is invalid" := by
  rw [signedRequest, formatTime]
  cases P.formatRfc3339 now with
  | error text => simp [bind, Except.bind, eq_comm]
  | ok timestamp =>
    simp only [bind, Except.bind, signPayload]
    cases P.hmacSha256 prepared.signingKey with
    | none => simp [eq_comm]
    | some mac => simp [pure, Except.pure]

/-- What a moved delivery fails with. -/
theorem endpointChanged_failure_iff {s : Sys P} {plugin : OutboundWebhookPlugin P}
    {prepared : PreparedWebhook P plugin.config} {delivery : DeliveryRecord} {now : OffsetDateTime}
    (hknown : Known s.db delivery) (hdiffers : endpointDiffers prepared delivery = true) :
    ((endpointChanged P delivery now).record begins s.db : Effect P).observation.failure
        = some failure ↔
      (Task.claimed plugin prepared delivery).Fails begins s.db (.clock now) failure := by
  rw [Conclusion.failure_iff (endpointChanged_for delivery now) hknown]
  constructor
  · rintro (⟨status, hstatus, -⟩ | ⟨status, hstatus, -⟩ | ⟨-, ⟨hlive, rfl⟩ | ⟨hlive, hanswer⟩⟩)
    · cases hstatus
    · cases hstatus
    · exact .stale (.moved hdiffers) hlive
    · obtain ⟨⟨error, hformat⟩, rfl⟩ := nativeDispatch_dispatchResponse.mp hanswer
      exact .unreportedTime (.moved hdiffers) id hlive hformat
  · intro h
    have hnone : ∀ status ∈ (endpointChanged P delivery now).call.receipt.httpStatus,
        100 ≤ status ∧ status ≤ 599 := fun _ hstatus => by cases hstatus
    refine .inr (.inr ⟨hnone, ?_⟩)
    cases h with
    | unsignedClock hsame => exact absurd (hdiffers.symm.trans hsame) (by decide)
    | unsignedKey hsame => exact absurd (hdiffers.symm.trans hsame) (by decide)
    | stale hrecords hlive =>
      cases hrecords with
      | moved => exact .inl ⟨hlive, rfl⟩
    | unreportedTime hrecords hport hlive hformat =>
      cases hrecords with
      | moved => exact .inr ⟨hlive, nativeDispatch_dispatchResponse.mpr ⟨⟨_, hformat⟩, rfl⟩⟩

theorem not_isRuntimeFailure_of_isDelivery
    {response : Except ClientInvocationError SendResponse} (h : IsDelivery response) :
    ¬IsRuntimeFailure response := by
  rcases response with error | response
  · exact h.elim
  · exact id

/-- What the answer of a result fails with. -/
theorem Conclusion.answer_failure_iff {config : OutboundWebhookConfig} {delivery : DeliveryRecord}
    {response : Except ClientInvocationError SendResponse} {receivedAt decidedAt : OffsetDateTime}
    {conclusion : Conclusion}
    (hfinish : finishOutcome P config delivery response receivedAt decidedAt = .ok conclusion) :
    (nativeDispatch conclusion.answer).failure = some failure ↔
      (∃ error, response = .error (.runtime error) ∧ failure = .error error) ∨
        ¬IsRuntimeFailure response ∧ (∃ error, P.formatRfc3339 receivedAt = .error error) ∧
          failure = .panic "stored PostgreSQL timestamp" := by
  have hreported : ∀ {outcome : DispatchResponseOutcome},
      conclusion.answer = dispatchResponse P delivery.deliveryId outcome conclusion.call.receipt →
      ¬IsRuntimeFailure response →
      ((nativeDispatch conclusion.answer).failure = some failure ↔
        (∃ error, response = .error (.runtime error) ∧ failure = .error error) ∨
          ¬IsRuntimeFailure response ∧ (∃ error, P.formatRfc3339 receivedAt = .error error) ∧
            failure = .panic "stored PostgreSQL timestamp") := by
    intro outcome hanswer hruntime
    rw [hanswer, nativeDispatch_dispatchResponse, finishOutcome_occurredAt hfinish]
    constructor
    · exact fun h => .inr ⟨hruntime, h⟩
    · rintro (⟨error, rfl, -⟩ | ⟨-, h⟩)
      · exact absurd trivial hruntime
      · exact h
  cases finishOutcome_verdict hfinish with
  | delivered hdelivery _ _ hanswer =>
    exact hreported hanswer (not_isRuntimeFailure_of_isDelivery hdelivery)
  | retried hretry _ _ _ _ hanswer => exact hreported hanswer hretry.disjoint.2
  | abandoned _ hruntime _ _ _ hanswer => exact hreported hanswer hruntime
  | left hresponse _ _ hanswer =>
    subst hresponse
    rw [hanswer]
    constructor
    · intro h
      exact .inl ⟨_, rfl, (Option.some.inj h).symm⟩
    · rintro (⟨error, heq, rfl⟩ | ⟨hruntime, -⟩)
      · cases heq
        rfl
      · exact absurd trivial hruntime

/-- A status that is tried again fits the table. -/
theorem IsRetryable.hasStorableStatus {response : Except ClientInvocationError SendResponse}
    (h : IsRetryable response) : HasStorableStatus response := by
  rcases response with error | response
  · trivial
  · simp only [IsRetryable, HasStorableStatus] at h ⊢
    omega

/-- What a result fails with that there is something to store of. -/
theorem Conclusion.record_failure_iff {s : Sys P} {plugin : OutboundWebhookPlugin P}
    {delivery : DeliveryRecord} {response : Except ClientInvocationError SendResponse}
    {receivedAt decidedAt : OffsetDateTime} {conclusion : Conclusion}
    (hfinish : finishOutcome P plugin.config delivery response receivedAt decidedAt
      = .ok conclusion)
    (htime : HasRetryTime plugin.config delivery decidedAt response)
    (hknown : Known s.db delivery) :
    (conclusion.record begins s.db : Effect P).observation.failure = some failure ↔
      (Task.posted plugin delivery).Fails begins s.db (.response response receivedAt decidedAt)
        failure := by
  have hstatus : conclusion.call.receipt.httpStatus
      = (receiptOf P delivery receivedAt response).httpStatus := by
    rw [← finishOutcome_receipt hfinish]
    rfl
  rw [Conclusion.failure_iff (finishOutcome_for hfinish) hknown, answer_failure_iff hfinish,
    hstatus]
  have hstorable : (∀ status ∈ (receiptOf P delivery receivedAt response).httpStatus,
      100 ≤ status ∧ status ≤ 599) ↔ HasStorableStatus response := by
    rcases response with error | response
    · simp [receiptOf, HasStorableStatus]
    · simp [receiptOf, HasStorableStatus]
  rw [hstorable]
  constructor
  · rintro (⟨status, heq, hfits, rfl⟩ | ⟨status, heq, hfits, hbad, rfl⟩ | ⟨hroom, ⟨hlive, rfl⟩ |
      ⟨hlive, ⟨error, rfl, rfl⟩ | ⟨hruntime, ⟨error, hformat⟩, rfl⟩⟩⟩)
    · rcases response with error | response
      · cases heq
      · exact .notAnI32 (Option.some.inj heq ▸ hfits)
    · rcases response with error | response
      · cases heq
      · obtain rfl : response.status = status := Option.some.inj heq
        exact .notAStatus hfits hbad
    · exact .stale (.finished hroom htime) hlive
    · exact .portFailed hlive
    · exact .unreportedTime (.finished hroom htime) hruntime hlive hformat
  · intro h
    cases h with
    | notAnI32 hfits => exact .inl ⟨_, rfl, hfits, rfl⟩
    | notAStatus hfits hbad => exact .inr (.inl ⟨_, rfl, hfits, hbad, rfl⟩)
    | outOfRange hout => exact absurd htime hout
    | stale hrecords hlive =>
      cases hrecords with
      | finished hroom => exact .inr (.inr ⟨hroom, .inl ⟨hlive, rfl⟩⟩)
    | portFailed hlive => exact .inr (.inr ⟨trivial, .inr ⟨hlive, .inl ⟨_, rfl, rfl⟩⟩⟩)
    | unreportedTime hrecords hport hlive hformat =>
      cases hrecords with
      | finished hroom =>
        exact .inr (.inr ⟨hroom, .inr ⟨hlive, .inr ⟨hport, ⟨_, hformat⟩, rfl⟩⟩⟩)

/-- What the result of a request fails with. -/
theorem finishDispatch_failure_iff {s : Sys P} {plugin : OutboundWebhookPlugin P}
    {delivery : DeliveryRecord} (response : Except ClientInvocationError SendResponse)
    (receivedAt decidedAt : OffsetDateTime) (hknown : Known s.db delivery) :
    (finishDispatch plugin delivery response receivedAt decidedAt begins
        s.db).observation.failure = some failure ↔
      (Task.posted plugin delivery).Fails begins s.db (.response response receivedAt decidedAt)
        failure := by
  have htotal := exists_finishOutcome_iff plugin.valid
    ⟨hknown.attempts.1, hknown.attempts.2.trans hknown.maxAttempts⟩ response receivedAt decidedAt
  rw [finishDispatch]
  rcases finishOutcome_cases (P := P) plugin.config delivery response receivedAt decidedAt with
    ⟨conclusion, hfinish, -⟩ | ⟨hfinish, hretry, -⟩
  · rw [hfinish]
    exact Conclusion.record_failure_iff hfinish (htotal.mp ⟨conclusion, hfinish⟩) hknown
  · have htime : ¬HasRetryTime plugin.config delivery decidedAt response := by
      rw [← htotal, hfinish]
      simp
    rw [hfinish]
    constructor
    · intro h
      obtain rfl := Option.some.inj h
      exact .outOfRange htime
    · intro h
      cases h with
      | outOfRange => rfl
      | notAnI32 hfits =>
        obtain ⟨hlow, hhigh⟩ := hretry.hasStorableStatus
        exact absurd ⟨by omega, by omega⟩ hfits
      | notAStatus _ hbad => exact absurd hretry.hasStorableStatus hbad
      | stale hrecords =>
        cases hrecords with
        | finished _ htime' => exact absurd htime' htime
      | portFailed => exact absurd hretry id
      | unreportedTime hrecords =>
        cases hrecords with
        | finished _ htime' => exact absurd htime' htime

/-- What a dispatch fails with between the claim and the HTTP port. -/
theorem attemptDelivery_failure_iff {s : Sys P} {plugin : OutboundWebhookPlugin P}
    {prepared : PreparedWebhook P plugin.config} {delivery : DeliveryRecord} {now : OffsetDateTime}
    (hknown : Known s.db delivery) :
    (attemptDelivery plugin prepared delivery now begins s.db).observation.failure = some failure ↔
      (Task.claimed plugin prepared delivery).Fails begins s.db (.clock now) failure := by
  by_cases hdiffers : endpointDiffers prepared delivery = true
  · rw [attemptDelivery, if_pos hdiffers]
    exact endpointChanged_failure_iff hknown hdiffers
  · have hsame : endpointDiffers prepared delivery = false := Bool.eq_false_iff.mpr hdiffers
    have hfails : (Task.claimed plugin prepared delivery).Fails begins s.db (.clock now) failure ↔
        ∃ error, signedRequest prepared delivery now = .error error ∧ failure = .error error := by
      constructor
      · intro h
        cases h with
        | unsignedClock _ hformat =>
          exact ⟨_, signedRequest_error_iff.mpr (.inl ⟨_, hformat, rfl⟩), rfl⟩
        | unsignedKey _ hformat hkey =>
          exact ⟨_, signedRequest_error_iff.mpr (.inr ⟨_, hformat, hkey, rfl⟩), rfl⟩
        | stale hrecords =>
          cases hrecords with
          | moved hdiffers' => exact absurd hdiffers' hdiffers
        | unreportedTime hrecords =>
          cases hrecords with
          | moved hdiffers' => exact absurd hdiffers' hdiffers
      · rintro ⟨error, hrequest, rfl⟩
        rcases signedRequest_error_iff.mp hrequest with ⟨text, hformat, rfl⟩ |
          ⟨timestamp, hformat, hkey, rfl⟩
        · exact .unsignedClock hsame hformat
        · exact .unsignedKey hsame hformat hkey
    rw [hfails, attemptDelivery, if_neg hdiffers]
    cases signedRequest prepared delivery now with
    | error error =>
      constructor
      · intro h
        exact ⟨error, rfl, (Option.some.inj h).symm⟩
      · rintro ⟨error', heq, rfl⟩
        cases heq
        rfl
    | ok request =>
      refine iff_of_false (fun h => by cases h) ?_
      rintro ⟨error, heq, -⟩
      cases heq

/-- **When a later stretch of a call fails.** -/
theorem Task.failure_iff {s : Sys P} (hinv : s.Inv) {p : Pending P} (hp : p ∈ s.pending)
    {input : Input} {effect : Effect P} (heffect : p.task.resume input begins s.db = some effect) :
    effect.observation.failure = some failure ↔ p.task.Fails begins s.db input failure := by
  have hknown := hinv.known p hp
  obtain ⟨task, since⟩ := p
  cases task <;> cases input <;> simp only [Task.resume, Option.some.injEq, reduceCtorEq] at heffect
  case claimed.clock plugin prepared delivery now =>
    subst heffect
    exact attemptDelivery_failure_iff (hknown _ rfl)
  case posted.response plugin delivery response receivedAt decidedAt =>
    subst heffect
    exact finishDispatch_failure_iff _ _ _ (hknown _ rfl)
  case inspecting.turn delivery =>
    subst heffect
    refine nativeInspect_inspectResponse.trans ⟨?_, ?_⟩
    · rintro ⟨⟨receipt, error, hreceipt, hformat⟩, rfl⟩
      exact .uninspectedTime hreceipt hformat
    · intro h
      cases h with
      | stale hrecords => cases hrecords
      | unreportedTime hrecords => cases hrecords
      | uninspectedTime hreceipt hformat => exact ⟨⟨_, _, hreceipt, hformat⟩, rfl⟩
  case replaying.turn delivery =>
    subst heffect
    refine iff_of_false ?_ ?_
    · rw [replayReceipt]
      split
      · exact fun h => by cases h
      · exact fun h => by cases h
    · intro h
      cases h with
      | stale hrecords => cases hrecords
      | unreportedTime hrecords => cases hrecords
  case replayable.turn deliveryId =>
    subst heffect
    refine iff_of_false ?_ ?_
    · obtain ⟨db', hok, -⟩ := beginReplay_eq_ok begins deliveryId s.db
      rw [replayStored, transact_of_eq_ok hok]
      cases (s.db.delivery deliveryId).filter (DeliveryRow.isReplayable deliveryId) with
      | none => exact fun h => by cases h
      | some row => exact fun h => by cases h
    · intro h
      cases h with
      | stale hrecords => cases hrecords
      | unreportedTime hrecords => cases hrecords

end NextStretch

/-- **Every failure has a foreseen cause**, and each cause has its failure. -/
theorem failure_causes (P : Platform) {s t : Sys P} {label : Label P} (hs : (system P).Reachable s)
    (hstep : (system P).step s label t) (failure : Abort RuntimeFailure) :
    label.observation.failure = some failure ↔
      (∃ call, label.action = .start call ∧ call.Fails s.db failure) ∨
        ∃ task input, label.action = .resume task input ∧
          task.Fails label.begins s.db input failure := by
  have hinv := reachable_inv hs
  cases hstep with
  | @start begins takesEffect locked call hbegins hnow =>
    refine (call.failure_iff hinv begins locked).trans ⟨fun h => .inl ⟨call, rfl, h⟩, ?_⟩
    rintro (⟨call', haction, h⟩ | ⟨task, input, haction, -⟩)
    · cases haction
      exact h
    · cases haction
  | @resume begins takesEffect before after p input effect hbegins hnow hsince hpending heffect =>
    refine (Task.failure_iff hinv (Sys.mem_of_split hpending) heffect).trans
      ⟨fun h => .inr ⟨p.task, input, rfl, h⟩, ?_⟩
    rintro (⟨call, haction, -⟩ | ⟨task, input', haction, h⟩)
    · cases haction
    · cases haction
      exact h
  | stop hnow hpending =>
    refine iff_of_false (fun h => by cases h) ?_
    rintro (⟨call, haction, -⟩ | ⟨task, input, haction, -⟩)
    · cases haction
    · cases haction

/-- The receiver of the first order answers with a status of 600. -/
theorem failure_causes_notAStatus :
    ∃ (s t : Sys reference) (label : Label reference), (system reference).Reachable s ∧
      (system reference).step s label t ∧ label.observation.failure = some (.error (storeFailure
        (.database "insert delivery receipt" "webhook_attempt_status_valid"))) := by
  obtain ⟨s, hs, hp, -⟩ := exists_first_live
  obtain ⟨before, after, hsplit⟩ := List.append_of_mem hp
  have heffect : (Task.posted firstOrder.plugin (decodeDelivery (firstOrder.row 0))).resume
      (.response (.ok ⟨600, []⟩) 0 0) 0 s.db = some _ := rfl
  have hstep := Step.resume (le_max_right s.now 0) (le_max_left s.now 0) le_rfl hsplit heffect
  exact ⟨s, _, _, hs, hstep, (failure_causes reference hs hstep _).mpr
    (.inr ⟨_, _, rfl, .notAStatus (by decide) (by decide)⟩)⟩

end OutboundWebhook
