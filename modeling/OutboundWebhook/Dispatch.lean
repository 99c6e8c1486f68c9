import OutboundWebhook.Backoff
import OutboundWebhook.Identity
import OutboundWebhook.Reference
import Mathlib.Data.List.GetD
import Mathlib.Tactic.Positivity
import Mathlib.Tactic.NormNum

/-!
# From the claim to the outcome

A dispatch sends one signed request for what it has claimed and records what came of it. This
module is about the two halves: which requests are ever sent, and what is recorded for a result.

## What is recorded

The policy is stated by itself (`FollowsPolicy`, `receiptOf`): a result in 200 to 299 is a delivery,
a retryable failure is tried again after a delay that doubles, a runtime failure leaves the lease to
expire, and everything else ends in a dead letter. `finish_dispatch` follows it for every result but
one kind: a status that the receipts table has no room for. The response has been received by then,
the receipt is refused or the conversion panics, and nothing is recorded. Two clocks stand in the
way as well: in a year before 0 the receipt is stored and cannot be reported, and so close to the
end of the year 9999 that the next attempt would be due after it, nothing is stored.

## Main results

* `outcome_recorded_iff` — when the outcome of a live attempt is recorded by the policy
* `every_post_is_faithful` — every request carries the stored snapshot, the ids and a signature that
  verifies
-/

namespace OutboundWebhook

variable {P : Platform}

/-! ### The policy -/

/-- The failures that are tried again. -/
def IsRetryable : Except ClientInvocationError SendResponse → Prop
  | .ok response =>
    response.status = 408 ∨ response.status = 429 ∨ (500 ≤ response.status ∧ response.status ≤ 599)
  | .error (.domain .timeout) => True
  | .error (.domain .transportFailure) => True
  | .error _ => False

/-- The result is a delivery. -/
def IsDelivery : Except ClientInvocationError SendResponse → Prop
  | .ok response => 200 ≤ response.status ∧ response.status ≤ 299
  | .error _ => False

/-- The call has not ended with a result of the port. -/
def IsRuntimeFailure : Except ClientInvocationError SendResponse → Prop
  | .error (.runtime _) => True
  | _ => False

/-- The delay doubles with each attempt up to the configured bound. -/
def backoffSeconds (config : OutboundWebhookConfig) (attempt : ℤ) : ℤ :=
  min (config.retryBaseSeconds * 2 ^ (attempt - 1).toNat) config.retryMaxSeconds

/-- The row after the outcome, against the row before it. -/
structure FollowsPolicy (config : OutboundWebhookConfig) (decidedAt : OffsetDateTime)
    (response : Except ClientInvocationError SendResponse) (row row' : DeliveryRow) : Prop where
  delivered : row'.status = .delivered ↔ IsDelivery response
  retryScheduled :
    row'.status = .retryScheduled ↔ IsRetryable response ∧ row.attempts < row.maxAttempts
  backoff : row'.status = .retryScheduled →
    row'.availableAt = toTimestamptz (databaseTimestampNow decidedAt)
      + seconds (backoffSeconds config row.attempts)
  delivering : row'.status = .delivering ↔ IsRuntimeFailure response
  lease : row'.status = .delivering → row'.leaseExpiresAt = row.leaseExpiresAt
  deadLetter : row'.status = .deadLetter ↔ ¬IsDelivery response ∧ ¬IsRuntimeFailure response ∧
    ¬(IsRetryable response ∧ row.attempts < row.maxAttempts)
  content : row'.content = row.content
  number : row'.number = row.number

variable (P) in
/-- The receipt that carries a result. -/
def receiptOf (delivery : DeliveryRecord) (receivedAt : OffsetDateTime)
    (response : Except ClientInvocationError SendResponse) : AttemptRow where
  deliveryId := delivery.deliveryId
  replayCount := delivery.replayCount
  attempt := delivery.attempts
  outcome := match response with
    | .ok response =>
      if 200 ≤ response.status ∧ response.status ≤ 299 then "delivered"
      else "http_status_" ++ toString response.status
    | .error (.domain error) => (httpDomainFailure error).code
    | .error (.runtime _) => "http_runtime_failure"
  httpStatus := match response with
    | .ok response => some response.status
    | .error _ => none
  responseSha256 := match response with
    | .ok response => some (sha256Hex P response.body)
    | .error _ => none
  occurredAt := toTimestamptz receivedAt

/-- The status an outcome reports. -/
def DispatchResponseOutcome.status : DispatchResponseOutcome → Option DeliveryStatus
  | .idle => none
  | .delivered => some .delivered
  | .retryScheduled => some .retryScheduled
  | .deadLettered => some .deadLetter

/-! ### The code against the policy -/

theorem classify_receipt (delivery : DeliveryRecord) (receivedAt : OffsetDateTime)
    (result : Except SendError SendResponse) :
    (classify P delivery receivedAt result).1.toRow delivery.deliveryId delivery.replayCount
      = receiptOf P delivery receivedAt (Except.mapError .domain result) := by
  rcases result with error | response
  · rfl
  · by_cases hok : 200 ≤ response.status ∧ response.status < 300
    · have hok' : 200 ≤ response.status ∧ response.status ≤ 299 := ⟨hok.1, by omega⟩
      simp [classify, DeliveryReceipt.toRow, receiptOf, Except.mapError, hok, hok']
    · have hok' : ¬(200 ≤ response.status ∧ response.status ≤ 299) := by omega
      simp [classify, DeliveryReceipt.toRow, receiptOf, Except.mapError, hok, hok',
        httpStatusFailure]

theorem classify_occurredAt (delivery : DeliveryRecord) (receivedAt : OffsetDateTime)
    (result : Except SendError SendResponse) :
    (classify P delivery receivedAt result).1.occurredAt = receivedAt := by
  cases result <;> rfl

section Outcome

variable {config : OutboundWebhookConfig} {delivery : DeliveryRecord}
  {response : Except ClientInvocationError SendResponse} {receivedAt decidedAt : OffsetDateTime}
  {conclusion : Conclusion}

/-- The receipt of an outcome is the one its classification made, or the one of a runtime
failure. -/
theorem finishOutcome_classified
    (h : finishOutcome P config delivery response receivedAt decidedAt = .ok conclusion) :
    (∃ result, response = Except.mapError .domain result ∧
        conclusion.call.receipt = (classify P delivery receivedAt result).1) ∨
      ∃ error, response = .error (.runtime error) ∧ conclusion.call.receipt =
        { attempt := delivery.attempts
          outcome := "http_runtime_failure"
          httpStatus := none
          responseSha256 := none
          occurredAt := receivedAt } := by
  rcases response_cases response with ⟨result, rfl⟩ | ⟨error, rfl⟩
  · rw [finishOutcome_mapError] at h
    obtain ⟨decision, -, hfinish⟩ :=
      finishResult_cases (P := P) config delivery receivedAt decidedAt result
    rw [hfinish] at h
    rcases decision with abort | decided
    · cases h
    · obtain rfl := Except.ok.inj h
      exact .inl ⟨result, rfl, rfl⟩
  · obtain rfl := Except.ok.inj h
    exact .inr ⟨error, rfl, rfl⟩

/-- The receipt the code makes is the one that carries the result. -/
theorem finishOutcome_receipt
    (h : finishOutcome P config delivery response receivedAt decidedAt = .ok conclusion) :
    conclusion.call.receipt.toRow delivery.deliveryId delivery.replayCount
      = receiptOf P delivery receivedAt response := by
  rcases finishOutcome_classified h with ⟨result, rfl, hreceipt⟩ | ⟨error, rfl, hreceipt⟩
  · rw [hreceipt, classify_receipt]
  · rw [hreceipt]
    rfl

theorem finishOutcome_occurredAt
    (h : finishOutcome P config delivery response receivedAt decidedAt = .ok conclusion) :
    conclusion.call.receipt.occurredAt = receivedAt := by
  rcases finishOutcome_classified h with ⟨result, rfl, hreceipt⟩ | ⟨error, rfl, hreceipt⟩
  · rw [hreceipt, classify_occurredAt]
  · rw [hreceipt]

end Outcome

theorem httpStatusFailure_retryable {response : SendResponse} :
    (httpStatusFailure response.status).retryable = true ↔ IsRetryable (.ok response) := by
  simp only [httpStatusFailure, IsRetryable, Bool.or_eq_true, Bool.and_eq_true, beq_iff_eq,
    decide_eq_true_eq, Int.lt_iff_add_one_le]
  omega

theorem httpDomainFailure_retryable {error : SendError} :
    (httpDomainFailure error).retryable = true ↔ IsRetryable (.error (.domain error)) := by
  cases error <;> simp [httpDomainFailure, IsRetryable]

variable (P) in
/-- What the code passes on as the next status and the next availability. -/
inductive Verdict (config : OutboundWebhookConfig) (delivery : DeliveryRecord)
    (decidedAt : OffsetDateTime) (response : Except ClientInvocationError SendResponse)
    (conclusion : Conclusion) : Prop
  | delivered (hresponse : IsDelivery response) (hstatus : conclusion.call.status = .delivered)
      (hnext : conclusion.call.nextAvailableAt = none)
      (hanswer : conclusion.answer
        = dispatchResponse P delivery.deliveryId .delivered conclusion.call.receipt)
  | retried (hresponse : IsRetryable response) (hleft : delivery.attempts < delivery.maxAttempts)
      (hstatus : conclusion.call.status = .retryScheduled) {next : OffsetDateTime}
      (hnext : conclusion.call.nextAvailableAt = some next)
      (hsum : (databaseTimestampNow decidedAt).checkedAdd (retryDelaySeconds delivery.attempts
        config.retryBaseSeconds config.retryMaxSeconds) = some next)
      (hanswer : conclusion.answer
        = dispatchResponse P delivery.deliveryId .retryScheduled conclusion.call.receipt)
  | abandoned (hdelivery : ¬IsDelivery response) (hruntime : ¬IsRuntimeFailure response)
      (hretry : ¬(IsRetryable response ∧ delivery.attempts < delivery.maxAttempts))
      (hstatus : conclusion.call.status = .deadLetter)
      (hnext : conclusion.call.nextAvailableAt = none)
      (hanswer : conclusion.answer
        = dispatchResponse P delivery.deliveryId .deadLettered conclusion.call.receipt)
  | left {error : RuntimeFailure} (hresponse : response = .error (.runtime error))
      (hstatus : conclusion.call.status = .delivering)
      (hnext : conclusion.call.nextAvailableAt = none)
      (hanswer : conclusion.answer = .error (.error (.runtime error)))

theorem classify_eq_none_iff (delivery : DeliveryRecord) (receivedAt : OffsetDateTime)
    (result : Except SendError SendResponse) :
    (classify P delivery receivedAt result).2 = none ↔
      IsDelivery (Except.mapError .domain result) := by
  rcases result with error | response
  · simp [classify, Except.mapError, IsDelivery]
  · have hbound : response.status < 300 ↔ response.status ≤ 299 := by omega
    simp [classify, Except.mapError, IsDelivery, hbound]

theorem classify_retryable {delivery : DeliveryRecord} {receivedAt : OffsetDateTime}
    {result : Except SendError SendResponse} {failure : DeliveryFailure}
    (h : (classify P delivery receivedAt result).2 = some failure) :
    failure.retryable ↔ IsRetryable (Except.mapError .domain result) := by
  rcases result with error | response
  · obtain rfl := Option.some.inj h
    exact httpDomainFailure_retryable
  · simp only [classify] at h
    split at h
    · cases h
    · obtain rfl := Option.some.inj h
      exact httpStatusFailure_retryable

theorem not_isRuntimeFailure_mapError (result : Except SendError SendResponse) :
    ¬IsRuntimeFailure (Except.mapError .domain result) := by
  cases result <;> exact id

/-- **The code's decision is the policy's.** -/
theorem finishOutcome_verdict {config : OutboundWebhookConfig} {delivery : DeliveryRecord}
    {response : Except ClientInvocationError SendResponse} {receivedAt decidedAt : OffsetDateTime}
    {conclusion : Conclusion}
    (h : finishOutcome P config delivery response receivedAt decidedAt = .ok conclusion) :
    Verdict P config delivery decidedAt response conclusion := by
  rcases response_cases response with ⟨result, rfl⟩ | ⟨error, rfl⟩
  · rw [finishOutcome_mapError] at h
    obtain ⟨decision, hdecision, hfinish⟩ :=
      finishResult_cases (P := P) config delivery receivedAt decidedAt result
    rw [hfinish] at h
    have hdelivery := classify_eq_none_iff (P := P) delivery receivedAt result
    generalize hfailure : (classify P delivery receivedAt result).2 = failure at hdecision hdelivery
    cases hdecision with
    | delivered =>
      obtain rfl := Except.ok.inj h
      exact .delivered (hdelivery.mp rfl) rfl rfl rfl
    | retried hretryable hleft hnext =>
      obtain rfl := Except.ok.inj h
      exact .retried ((classify_retryable hfailure).mp hretryable) hleft rfl rfl hnext rfl
    | outOfRange => cases h
    | abandoned hretry =>
      obtain rfl := Except.ok.inj h
      rw [classify_retryable hfailure] at hretry
      exact .abandoned (fun hdelivered => Option.some_ne_none _ (hdelivery.mpr hdelivered))
        (not_isRuntimeFailure_mapError result) hretry rfl rfl rfl
  · obtain rfl := Except.ok.inj h
    exact .left rfl rfl rfl rfl

/-- What is tried again is neither a delivery nor a runtime failure. -/
theorem IsRetryable.disjoint {response : Except ClientInvocationError SendResponse}
    (h : IsRetryable response) : ¬IsDelivery response ∧ ¬IsRuntimeFailure response := by
  match response with
  | .ok response =>
    refine ⟨?_, id⟩
    intro hdelivery
    have := hdelivery.1
    have := hdelivery.2
    rcases h with hstatus | hstatus | hstatus <;> omega
  | .error (.domain error) => exact ⟨id, id⟩

/-- There is an outcome to store, or the time of the next attempt is out of range. -/
theorem finishOutcome_cases (config : OutboundWebhookConfig) (delivery : DeliveryRecord)
    (response : Except ClientInvocationError SendResponse) (receivedAt decidedAt : OffsetDateTime) :
    (∃ conclusion, finishOutcome P config delivery response receivedAt decidedAt = .ok conclusion ∧
      (IsRetryable response → delivery.attempts < delivery.maxAttempts →
        ∃ next, (databaseTimestampNow decidedAt).checkedAdd (retryDelaySeconds delivery.attempts
          config.retryBaseSeconds config.retryMaxSeconds) = some next)) ∨
    (finishOutcome P config delivery response receivedAt decidedAt
        = .error (.panic "resulting value is out of range") ∧
      IsRetryable response ∧ delivery.attempts < delivery.maxAttempts ∧
      (databaseTimestampNow decidedAt).checkedAdd (retryDelaySeconds delivery.attempts
        config.retryBaseSeconds config.retryMaxSeconds) = none) := by
  rcases response_cases response with ⟨result, rfl⟩ | ⟨error, rfl⟩
  · obtain ⟨decision, hdecision, hfinish⟩ :=
      finishResult_cases (P := P) config delivery receivedAt decidedAt result
    rw [finishOutcome_mapError, hfinish]
    have hdelivery := classify_eq_none_iff (P := P) delivery receivedAt result
    generalize hfailure : (classify P delivery receivedAt result).2 = failure at hdecision hdelivery
    cases hdecision with
    | delivered =>
      exact .inl ⟨_, rfl, fun hretry => absurd (hdelivery.mp rfl) hretry.disjoint.1⟩
    | retried _ _ hnext => exact .inl ⟨_, rfl, fun _ _ => ⟨_, hnext⟩⟩
    | outOfRange hretryable hleft hnext =>
      exact .inr ⟨rfl, (classify_retryable hfailure).mp hretryable, hleft, hnext⟩
    | abandoned hretry =>
      rw [classify_retryable hfailure] at hretry
      exact .inl ⟨_, rfl, fun hretry' hleft => absurd ⟨hretry', hleft⟩ hretry⟩
  · exact .inl ⟨_, rfl, fun hretry => absurd hretry id⟩

/-- The time of the next attempt, where there is one, is in the years of the clock. -/
def HasRetryTime (config : OutboundWebhookConfig) (delivery : DeliveryRecord)
    (decidedAt : OffsetDateTime) (response : Except ClientInvocationError SendResponse) : Prop :=
  IsRetryable response → delivery.attempts < delivery.maxAttempts →
    IsInstant ((databaseTimestampNow decidedAt).unixTimestampNanos
      + 1000000000 * backoffSeconds config delivery.attempts)

/-- **When there is an outcome to store.** -/
theorem exists_finishOutcome_iff {config : OutboundWebhookConfig} (hvalid : ValidConfig P config)
    {delivery : DeliveryRecord} (hattempts : 1 ≤ delivery.attempts ∧ delivery.attempts ≤ 100)
    (response : Except ClientInvocationError SendResponse) (receivedAt decidedAt : OffsetDateTime) :
    (∃ conclusion, finishOutcome P config delivery response receivedAt decidedAt
        = .ok conclusion) ↔
      HasRetryTime config delivery decidedAt response := by
  have hdelay : retryDelaySeconds delivery.attempts config.retryBaseSeconds config.retryMaxSeconds
      = backoffSeconds config delivery.attempts := hvalid.retryDelaySeconds_eq hattempts
  rw [HasRetryTime, ← OffsetDateTime.exists_checkedAdd_iff, ← hdelay]
  rcases finishOutcome_cases (P := P) config delivery response receivedAt decidedAt with
    ⟨conclusion, hok, hnext⟩ | ⟨herror, hretry, hleft, hnone⟩
  · exact iff_of_true ⟨conclusion, hok⟩ hnext
  · refine iff_of_false (by simp [herror]) ?_
    intro h
    obtain ⟨next, hsome⟩ := h hretry hleft
    exact absurd (hnone.symm.trans hsome) (by simp)

/-- The row of a live attempt after its outcome. -/
theorem Verdict.followsPolicy {config : OutboundWebhookConfig} (hvalid : ValidConfig P config)
    {delivery : DeliveryRecord} {decidedAt : OffsetDateTime}
    {response : Except ClientInvocationError SendResponse} {conclusion : Conclusion}
    (h : Verdict P config delivery decidedAt response conclusion) {row : DeliveryRow}
    (hattempts : row.attempts = delivery.attempts) (hmax : row.maxAttempts = delivery.maxAttempts)
    (hbounds : 1 ≤ row.attempts ∧ row.attempts ≤ 100) (begins : Timestamptz) :
    FollowsPolicy config decidedAt response row
      (row.assign (outcomeAssignment begins conclusion.call.status conclusion.call.nextAvailableAt
        row)) := by
  cases h with
  | delivered hresponse hstatus hnext =>
    have hretry : ¬IsRetryable response := fun h => h.disjoint.1 hresponse
    have hruntime : ¬IsRuntimeFailure response := by
      match response with
      | .ok response => exact id
    rw [hstatus, hnext]
    exact ⟨by simp [outcomeAssignment, hresponse], by simp [outcomeAssignment, hretry],
      by simp [outcomeAssignment], by simp [outcomeAssignment, hruntime],
      by simp [outcomeAssignment], by simp [outcomeAssignment, hresponse], rfl, rfl⟩
  | retried hresponse hleft hstatus hnext hsum =>
    obtain ⟨hdelivery, hruntime⟩ := hresponse.disjoint
    have hleft' : row.attempts < row.maxAttempts := by rwa [hattempts, hmax]
    rw [hstatus, hnext]
    refine ⟨by simp [outcomeAssignment, hdelivery], by simp [outcomeAssignment, hresponse, hleft'],
      ?_, by simp [outcomeAssignment, hruntime], by simp [outcomeAssignment],
      by simp [outcomeAssignment, hresponse, hleft'], rfl, rfl⟩
    intro _
    show toTimestamptz _ = _
    rw [toTimestamptz_checkedAdd hsum, ← hattempts, hvalid.retryDelaySeconds_eq hbounds,
      backoffSeconds]
  | abandoned hdelivery hruntime hretry hstatus hnext =>
    have hretry' : ¬(IsRetryable response ∧ row.attempts < row.maxAttempts) := by
      rwa [hattempts, hmax]
    rw [hstatus, hnext]
    exact ⟨by simp [outcomeAssignment, hdelivery],
      iff_of_false (by simp [outcomeAssignment]) hretry', by simp [outcomeAssignment],
      by simp [outcomeAssignment, hruntime], by simp [outcomeAssignment],
      ⟨fun _ => ⟨hdelivery, hruntime, hretry'⟩, fun _ => rfl⟩, rfl, rfl⟩
  | left hresponse hstatus hnext =>
    subst hresponse
    rw [hstatus, hnext]
    exact ⟨by simp [outcomeAssignment, IsDelivery], by simp [outcomeAssignment, IsRetryable],
      by simp [outcomeAssignment], by simp [outcomeAssignment, IsRuntimeFailure],
      by simp [outcomeAssignment], by simp [outcomeAssignment, IsRuntimeFailure], rfl, rfl⟩

/-! ### The outcome of a live attempt -/

variable (P) in
/-- The result is recorded by the policy, and reported as it is recorded. -/
structure RecordedByPolicy (config : OutboundWebhookConfig) (delivery : DeliveryRecord)
    (response : Except ClientInvocationError SendResponse) (receivedAt decidedAt : OffsetDateTime)
    (db : Db) (effect : Effect P) : Prop where
  /-- There is neither a panic nor a database error. -/
  committed : ∃ call, effect.observation.stored = some (.outcome call (.ok ()))
  receipt : effect.db.attempts = db.attempts ++ [receiptOf P delivery receivedAt response]
  row : ∃ row row', db.delivery delivery.deliveryId = some row ∧
    effect.db.delivery delivery.deliveryId = some row' ∧
    FollowsPolicy config decidedAt response row row'
  reported : (∃ error, response = .error (.runtime error) ∧
      effect.observation.answer = some (.dispatch (.error (.error (.runtime error))))) ∨
    ∃ answer row', effect.observation.answer = some (.dispatch (.ok answer)) ∧
      effect.db.delivery delivery.deliveryId = some row' ∧
      answer.deliveryId = some delivery.deliveryId ∧ answer.outcome.status = some row'.status

/-- The receipts table has room for the status. -/
def HasStorableStatus : Except ClientInvocationError SendResponse → Prop
  | .ok response => 100 ≤ response.status ∧ response.status ≤ 599
  | .error _ => True

/-- The row is delivering the very attempt of the record, under a lease after `begins`. -/
structure IsLive (db : Db) (delivery : DeliveryRecord) (begins : Timestamptz) : Prop where
  row : ∃ row, db.delivery delivery.deliveryId = some row ∧ row.number = delivery.number ∧
    row.status = .delivering ∧ ∃ lease, row.leaseExpiresAt = some lease ∧ begins < lease

theorem receiptOf_violation_eq_none_iff {delivery : DeliveryRecord} {receivedAt : OffsetDateTime}
    {response : Except ClientInvocationError SendResponse}
    (hattempts : 1 ≤ delivery.attempts ∧ delivery.attempts ≤ 100) :
    (receiptOf P delivery receivedAt response).violation = none ↔ HasStorableStatus response := by
  rw [AttemptRow.violation_eq_none_iff]
  match response with
  | .ok response => simp [receiptOf, HasStorableStatus, hattempts]
  | .error error => simp [receiptOf, HasStorableStatus, hattempts]

/-- A dispatch response is made exactly when its time can be written. -/
theorem dispatchResponse_eq_ok_iff {ε : Type} {deliveryId : String}
    {outcome : DispatchResponseOutcome} {receipt : DeliveryReceipt} :
    (∃ answer, (dispatchResponse P deliveryId outcome receipt : Except (Abort ε) DispatchResponse)
        = .ok answer) ↔ ∃ text, P.formatRfc3339 receipt.occurredAt = .ok text := by
  cases h : P.formatRfc3339 receipt.occurredAt <;>
    simp [dispatchResponse, responseReceipt, formatTime, h, bind, Except.bind, pure, Except.pure]

theorem dispatchResponse_eq_ok {ε : Type} {deliveryId : String} {outcome : DispatchResponseOutcome}
    {receipt : DeliveryReceipt} {answer : DispatchResponse}
    (h : (dispatchResponse P deliveryId outcome receipt : Except (Abort ε) DispatchResponse)
      = .ok answer) : answer.deliveryId = some deliveryId ∧ answer.outcome = outcome := by
  unfold dispatchResponse at h
  cases hreceipt : (responseReceipt P receipt : Except (Abort ε) ResponseReceipt) with
  | error e => simp [hreceipt, bind, Except.bind] at h
  | ok r =>
    simp only [hreceipt, bind, Except.bind, pure, Except.pure, Except.ok.injEq] at h
    rw [← h]
    exact ⟨rfl, rfl⟩

/-- A decision that has an answer either is a runtime failure or has a time that can be written. -/
theorem Verdict.answer_ok {config : OutboundWebhookConfig} {delivery : DeliveryRecord}
    {decidedAt : OffsetDateTime} {response : Except ClientInvocationError SendResponse}
    {conclusion : Conclusion} (h : Verdict P config delivery decidedAt response conclusion)
    {answer : DispatchResponse} (hanswer : conclusion.answer = .ok answer) :
    ∃ text, P.formatRfc3339 conclusion.call.receipt.occurredAt = .ok text := by
  cases h with
  | delivered _ _ _ h => exact dispatchResponse_eq_ok_iff.mp ⟨answer, h.symm.trans hanswer⟩
  | retried _ _ _ _ _ h => exact dispatchResponse_eq_ok_iff.mp ⟨answer, h.symm.trans hanswer⟩
  | abandoned _ _ _ _ _ h => exact dispatchResponse_eq_ok_iff.mp ⟨answer, h.symm.trans hanswer⟩
  | left _ _ _ h => exact nomatch h.symm.trans hanswer

/-- What is reported is the status that is passed on. -/
theorem Verdict.reported {config : OutboundWebhookConfig} {delivery : DeliveryRecord}
    {decidedAt : OffsetDateTime} {response : Except ClientInvocationError SendResponse}
    {conclusion : Conclusion} (h : Verdict P config delivery decidedAt response conclusion)
    (hformat : IsRuntimeFailure response ∨
      ∃ text, P.formatRfc3339 conclusion.call.receipt.occurredAt = .ok text) :
    (∃ error, response = .error (.runtime error) ∧
        conclusion.answer = .error (.error (.runtime error))) ∨
      ∃ answer, conclusion.answer = .ok answer ∧ answer.deliveryId = some delivery.deliveryId ∧
        answer.outcome.status = some conclusion.call.status := by
  have hresponse : ∀ outcome : DispatchResponseOutcome, ¬IsRuntimeFailure response →
      conclusion.answer = dispatchResponse P delivery.deliveryId outcome conclusion.call.receipt →
      ∃ answer, conclusion.answer = .ok answer ∧ answer.deliveryId = some delivery.deliveryId ∧
        answer.outcome = outcome := by
    intro outcome hruntime hanswer
    obtain ⟨answer, hok⟩ := dispatchResponse_eq_ok_iff.mpr (hformat.resolve_left hruntime)
    exact ⟨answer, hanswer.trans hok, dispatchResponse_eq_ok hok⟩
  cases h with
  | delivered hdelivery hstatus _ hanswer =>
    have hruntime : ¬IsRuntimeFailure response := by
      match response with
      | .ok response => exact id
    obtain ⟨answer, hok, hid, houtcome⟩ := hresponse _ hruntime hanswer
    exact .inr ⟨answer, hok, hid, by rw [houtcome, hstatus]; rfl⟩
  | retried hretry _ hstatus _ _ hanswer =>
    have hruntime : ¬IsRuntimeFailure response := by
      match response with
      | .ok response => exact id
      | .error (.domain error) => exact id
    obtain ⟨answer, hok, hid, houtcome⟩ := hresponse _ hruntime hanswer
    exact .inr ⟨answer, hok, hid, by rw [houtcome, hstatus]; rfl⟩
  | abandoned _ hruntime _ hstatus _ hanswer =>
    obtain ⟨answer, hok, hid, houtcome⟩ := hresponse _ hruntime hanswer
    exact .inr ⟨answer, hok, hid, by rw [houtcome, hstatus]; rfl⟩
  | left hruntime _ _ hanswer => exact .inl ⟨_, hruntime, hanswer⟩

section Finish

variable {s : Sys P} {plugin : OutboundWebhookPlugin P} {delivery : DeliveryRecord}
  {since begins : Timestamptz} (response : Except ClientInvocationError SendResponse)
  (receivedAt decidedAt : OffsetDateTime)

/-- A recorded outcome had a status that can be stored, a free key, a time that can be written and,
if there is to be another attempt, a time for it. -/
theorem RecordedByPolicy.condition (hinv : s.Inv)
    (hp : ⟨.posted plugin delivery, since⟩ ∈ s.pending)
    (h : RecordedByPolicy P plugin.config delivery response receivedAt decidedAt s.db
      (finishDispatch plugin delivery response receivedAt decidedAt begins s.db)) :
    HasStorableStatus response ∧
      s.db.receipt delivery.deliveryId delivery.replayCount delivery.attempts = none ∧
      (IsRuntimeFailure response ∨ ∃ text, P.formatRfc3339 receivedAt = .ok text) ∧
      HasRetryTime plugin.config delivery decidedAt response := by
  have hknown := hinv.known _ hp delivery rfl
  have hbounds : 1 ≤ delivery.attempts ∧ delivery.attempts ≤ 100 :=
    ⟨hknown.attempts.1, hknown.attempts.2.trans hknown.maxAttempts⟩
  have htotal := exists_finishOutcome_iff plugin.valid hbounds response receivedAt decidedAt
  obtain ⟨⟨call, hcommitted⟩, hreceipt, -, hreported⟩ := h
  rw [finishDispatch] at hcommitted hreceipt hreported
  cases hfinish : finishOutcome P plugin.config delivery response receivedAt decidedAt with
  | error abort =>
    rw [hfinish] at hcommitted
    cases hcommitted
  | ok conclusion =>
    rw [hfinish] at hcommitted hreceipt hreported
    have hfor := finishOutcome_for hfinish
    simp only [Conclusion.record] at hcommitted hreceipt hreported
    cases hbody : conclusion.call.run begins s.db with
    | error e =>
      rw [transact_of_eq_error hbody] at hcommitted
      cases hcommitted
    | ok value =>
      obtain ⟨⟨⟩, db'⟩ := value
      rw [transact_of_eq_ok hbody] at hreceipt hreported
      obtain ⟨hcheck, -, -, ha⟩ := recordOutcome_ok_inv hbody
      rw [hfor.deliveryId, hfor.replayCount, finishOutcome_receipt hfinish] at hcheck ha
      refine ⟨(receiptOf_violation_eq_none_iff hbounds).mp hcheck, ?_, ?_,
        htotal.mp ⟨conclusion, hfinish⟩⟩
      · refine Db.receipt_eq_none_iff.mpr ?_
        intro hmem
        have hsame := KeyedTable.insertNew_of_mem (a := receiptOf P delivery receivedAt response)
          hmem
        rw [hsame] at ha
        have hlen := congrArg List.length (ha.symm.trans hreceipt)
        simp at hlen
      · rcases hreported with ⟨error, rfl, -⟩ | ⟨answer, row', hanswer, -⟩
        · exact .inl trivial
        · have hok : conclusion.answer = .ok answer := by simpa using hanswer
          rw [← finishOutcome_occurredAt hfinish]
          exact .inr ((finishOutcome_verdict hfinish).answer_ok hok)

/-- An outcome that there is something to store of is recorded by the policy. -/
theorem Conclusion.recordedByPolicy (hinv : s.Inv)
    (hp : ⟨.posted plugin delivery, since⟩ ∈ s.pending) (hlive : IsLive s.db delivery begins)
    {conclusion : Conclusion}
    (hfinish : finishOutcome P plugin.config delivery response receivedAt decidedAt
      = .ok conclusion) (hstorable : HasStorableStatus response)
    (hnone : s.db.receipt delivery.deliveryId delivery.replayCount delivery.attempts = none)
    (hformat : IsRuntimeFailure response ∨ ∃ text, P.formatRfc3339 receivedAt = .ok text) :
    RecordedByPolicy P plugin.config delivery response receivedAt decidedAt s.db
      (conclusion.record begins s.db) := by
  have hknown := hinv.known _ hp delivery rfl
  have hfor := finishOutcome_for hfinish
  have hverdict := finishOutcome_verdict hfinish
  obtain ⟨row, hrow, hnumber, hstatus, hlease⟩ := hlive.row
  obtain ⟨hmem, hid⟩ := Db.delivery_eq_some_iff.mp hrow
  have hbounds : 1 ≤ delivery.attempts ∧ delivery.attempts ≤ 100 :=
    ⟨hknown.attempts.1, hknown.attempts.2.trans hknown.maxAttempts⟩
  -- the call is one the table accepts, and its fence holds
  have hrowReceipt : conclusion.call.receipt.toRow conclusion.call.deliveryId
      conclusion.call.replayCount = receiptOf P delivery receivedAt response := by
    rw [hfor.deliveryId, hfor.replayCount, finishOutcome_receipt hfinish]
  have hcheck : (conclusion.call.receipt.toRow conclusion.call.deliveryId
      conclusion.call.replayCount).violation = none := by
    rw [hrowReceipt]
    exact (receiptOf_violation_eq_none_iff hbounds).mpr hstorable
  have hfits : FitsColumns conclusion.call.replayCount conclusion.call.receipt :=
    fitsColumns_of_check (by rw [hfor.replayCount]; exact hknown.replayCount) hcheck
  have hfenced : row.isFenced begins conclusion.call.deliveryId conclusion.call.replayCount
      conclusion.call.receipt.attempt := by
    rw [DeliveryRow.isFenced_iff, hfor.deliveryId, hfor.replayCount, hfor.attempt]
    exact ⟨hid, hnumber, hstatus, hlease⟩
  obtain ⟨db', hbody, hd, ha⟩ := recordOutcome_eq_ok conclusion.call.status
    conclusion.call.nextAvailableAt hfits hcheck hmem hfenced
  have hrun : transact (conclusion.call.run begins) s.db = (.ok (), db') := transact_of_eq_ok hbody
  have hrow' : db'.delivery delivery.deliveryId = some (row.assign (outcomeAssignment begins
      conclusion.call.status conclusion.call.nextAvailableAt row)) := by
    rw [Db.delivery_of_map hd (DeliveryRow.updated_deliveryId _ _), hrow, Option.map_some,
      DeliveryRow.updated, if_pos hfenced]
  -- what the worker knows of the row is true of it
  obtain ⟨known, hknownRow, hcontent, -⟩ := hknown.row
  rw [hrow, Option.some.injEq] at hknownRow
  subst hknownRow
  have hmax : row.maxAttempts = delivery.maxAttempts := congrArg Content.maxAttempts hcontent
  have hattempts : row.attempts = delivery.attempts := congrArg Prod.snd hnumber
  refine ⟨⟨conclusion.call, ?_⟩, ?_, ⟨row, _, hrow, ?_, hverdict.followsPolicy plugin.valid
    hattempts hmax (hattempts ▸ hbounds) begins⟩, ?_⟩
  · simp only [Conclusion.record, hrun]
  · have hfree := Db.receipt_eq_none_iff.mp hnone
    rw [hrowReceipt, KeyedTable.insertNew_of_notMem hfree] at ha
    simp only [Conclusion.record, hrun, ha]
  · simp only [Conclusion.record, hrun, hrow']
  · rw [← finishOutcome_occurredAt hfinish] at hformat
    rcases hverdict.reported hformat with ⟨error, hresponse, hanswer⟩ | ⟨answer, hanswer, hid, hout⟩
    · refine .inl ⟨error, hresponse, ?_⟩
      simp only [Conclusion.record, hrun, hanswer]
    · have hafter : (conclusion.record begins s.db : Effect P).db = db' := by
        simp only [Conclusion.record, hrun]
      refine .inr ⟨answer, _, ?_, hafter ▸ hrow', hid, hout⟩
      simp only [Conclusion.record, hrun, hanswer]

/-- **When the outcome of a live attempt is recorded by the policy.** -/
theorem outcome_recorded_iff (hs : (system P).Reachable s)
    (hp : ⟨.posted plugin delivery, since⟩ ∈ s.pending) (hlive : IsLive s.db delivery begins) :
    RecordedByPolicy P plugin.config delivery response receivedAt decidedAt s.db
        (finishDispatch plugin delivery response receivedAt decidedAt begins s.db) ↔
      HasStorableStatus response ∧
        s.db.receipt delivery.deliveryId delivery.replayCount delivery.attempts = none ∧
        (IsRuntimeFailure response ∨ ∃ text, P.formatRfc3339 receivedAt = .ok text) ∧
        HasRetryTime plugin.config delivery decidedAt response := by
  have hinv := reachable_inv hs
  refine ⟨fun h => h.condition response receivedAt decidedAt hinv hp, ?_⟩
  rintro ⟨hstorable, hnone, hformat, htime⟩
  have hknown := hinv.known _ hp delivery rfl
  obtain ⟨conclusion, hfinish⟩ := (exists_finishOutcome_iff plugin.valid
    ⟨hknown.attempts.1, hknown.attempts.2.trans hknown.maxAttempts⟩ response receivedAt
    decidedAt).mpr htime
  rw [finishDispatch, hfinish]
  exact conclusion.recordedByPolicy response receivedAt decidedAt hinv hp hlive hfinish hstorable
    hnone hformat

end Finish

/-- The first order has been sent, and its attempt is live. -/
theorem exists_first_live :
    ∃ s, (system reference).Reachable s ∧
      ⟨.posted firstOrder.plugin (decodeDelivery (firstOrder.row 0)), 0⟩ ∈ s.pending ∧
      IsLive s.db (decodeDelivery (firstOrder.row 0)) 1 ∧ s.db.attempts = [] := by
  obtain ⟨labels, s, hrun, -, hd, ha, hp, -⟩ := exists_first_sent
  have hrow : firstOrder.row 0 ∈ s.db.deliveries := Db.mem_of_singleton hd
  refine ⟨s, hrun.reachable, ?_, ⟨firstOrder.row 0, Db.delivery_of_mem hrow, rfl, rfl, _, rfl,
    by decide⟩, ha⟩
  rw [hp]
  exact List.mem_singleton.mpr rfl

/-- **A response with a status of 600 is not recorded.** The request has been sent by then. -/
theorem unstorable_status_not_recorded :
    ∃ (s : Sys reference) (call : OutcomeCall), (system reference).Reachable s ∧
      ⟨.posted firstOrder.plugin (decodeDelivery (firstOrder.row 0)), 0⟩ ∈ s.pending ∧
      IsLive s.db (decodeDelivery (firstOrder.row 0)) 1 ∧
      (finishDispatch firstOrder.plugin (decodeDelivery (firstOrder.row 0)) (.ok ⟨600, []⟩) 0 0 1
          s.db).observation.stored
        = some (.outcome call (.error (.error (.database "insert delivery receipt"
            "webhook_attempt_status_valid")))) ∧
      ¬RecordedByPolicy reference firstOrder.plugin.config (decodeDelivery (firstOrder.row 0))
        (.ok ⟨600, []⟩) 0 0 s.db (finishDispatch firstOrder.plugin
          (decodeDelivery (firstOrder.row 0)) (.ok ⟨600, []⟩) 0 0 1 s.db) := by
  obtain ⟨s, hs, hp, hlive, -⟩ := exists_first_live
  have hrun := transact_of_eq_error (run_refused s.db)
  refine ⟨s, firstFailed ⟨600, []⟩ .deadLetter none, hs, hp, hlive, ?_, ?_⟩
  · rw [finishDispatch, finishOutcome_refused]
    simp only [Conclusion.record, hrun]
  · intro h
    exact absurd (h.condition _ _ _ (reachable_inv hs) hp).1.2 (by decide)

/-- A response with a status of 200 is recorded. -/
theorem outcome_recorded_first :
    ∃ s : Sys reference, (system reference).Reachable s ∧
      RecordedByPolicy reference firstOrder.plugin.config (decodeDelivery (firstOrder.row 0))
        (.ok ⟨200, []⟩) 0 0 s.db (finishDispatch firstOrder.plugin
          (decodeDelivery (firstOrder.row 0)) (.ok ⟨200, []⟩) 0 0 1 s.db) := by
  obtain ⟨s, hs, hp, hlive, ha⟩ := exists_first_live
  refine ⟨s, hs, (outcome_recorded_iff (.ok ⟨200, []⟩) 0 0 hs hp hlive).mpr
    ⟨⟨by decide, by decide⟩, ?_, .inr ⟨"1970-01-01T00:00:00Z", by decide +kernel⟩, ?_⟩⟩
  · rw [Db.receipt, ha]
    rfl
  · intro hretry
    exact absurd ⟨by decide, by decide⟩ hretry.disjoint.1

/-! ### Requests -/

/-- The value of the first header of a name. -/
def SendRequest.header (request : SendRequest) (name : String) : Option String :=
  (request.headers.find? fun header => header.name = name).map SendRequestHeadersItem.value

variable (P) in
/-- What a receiver relies on. -/
structure FaithfulPost (row : DeliveryRow) (signingKey : Bytes) (request : SendRequest) : Prop where
  body : request.body = row.payloadSnapshot
  digest : row.payloadSha256 = sha256Hex P request.body
  /-- The digest is the one an inspect of the row reports. -/
  inspected : ∀ lastReceipt answer,
    (inspectResponse P { decodeDelivery row with lastReceipt := lastReceipt } :
        Except (Abort AdminFlowError) InspectResponse) = .ok answer →
      answer.payloadSha256 = sha256Hex P request.body
  deliveryId : request.header "x-lenso-webhook-id" = some row.deliveryId
  eventId : request.header "x-lenso-webhook-event-id" = some row.eventId
  /-- The code over what was received is the one that was sent. -/
  signature : ∃ id timestamp mac, request.header "x-lenso-webhook-id" = some id ∧
    request.header "x-lenso-webhook-timestamp" = some timestamp ∧ IsRfc3339Utc timestamp ∧
    P.hmacSha256 signingKey = some mac ∧
    request.header "x-lenso-webhook-signature" = some ("v1=" ++
      hex (mac (asBytes id ++ asBytes "." ++ asBytes timestamp ++ asBytes "." ++ request.body)))
  visible : ∀ header ∈ request.headers, IsVisibleText header.value

theorem isVisibleAscii_of_mem_hexChars {value : Bytes} {cs : List Char}
    (hcs : cs ⊆ hexChars value) :
    ∀ b ∈ asBytes (String.ofList cs), IsVisibleAscii b := by
  have hclass : ∀ c ∈ cs, IsAscii c ∧ IsVisibleAscii c.val.toUInt8 := by
    intro c hc
    obtain ⟨hascii, hvisible, -⟩ := hexAlphabet_class (hexChars_subset value (hcs hc))
    exact ⟨hascii, hvisible⟩
  intro b hb
  rw [asBytes_ofList fun c hc => (hclass c hc).1] at hb
  obtain ⟨c, hc, rfl⟩ := List.mem_map.mp hb
  exact (hclass c hc).2

theorem isVisibleText_of_validEventName {value : String} (h : validEventName value) :
    IsVisibleText value := by
  simp only [validEventName, Bool.and_eq_true, Bool.not_eq_true', List.isEmpty_eq_false_iff,
    List.all_eq_true] at h
  refine ⟨h.1.1, ?_⟩
  intro b hb
  have hclass := h.2 b hb
  simp only [Bool.or_eq_true, beq_iff_eq] at hclass
  rcases hclass with (((((hclass | rfl) | rfl) | rfl) | rfl) | rfl)
  · exact isVisibleAscii_of_isAsciiAlphanumeric hclass
  all_goals decide

theorem isVisibleText_stableDeliveryId (endpointUrl eventId : String) :
    IsVisibleText (stableDeliveryId P endpointUrl eventId) := by
  refine IsVisibleText.append ?_ (isVisibleAscii_of_mem_hexChars (List.take_subset _ _))
  decide +kernel

theorem inspectResponse_payloadSha256 {ε : Type} {delivery : DeliveryRecord}
    {answer : InspectResponse}
    (h : (inspectResponse P delivery : Except (Abort ε) InspectResponse) = .ok answer) :
    answer.payloadSha256 = delivery.payloadSha256 := by
  unfold inspectResponse at h
  cases hreceipt : (delivery.lastReceipt.mapM (responseReceipt P) :
      Except (Abort ε) (Option ResponseReceipt)) with
  | error error => simp [hreceipt, bind, Except.bind] at h
  | ok receipt =>
    simp only [hreceipt, bind, Except.bind, pure, Except.pure, Except.ok.injEq] at h
    rw [← h]

/-- **A signed request for an authentic delivery is faithful to its row.** -/
theorem faithfulPost_of_signedRequest {config : OutboundWebhookConfig}
    {prepared : PreparedWebhook P config} {delivery : DeliveryRecord} {now : OffsetDateTime}
    {request : SendRequest} (hrequest : signedRequest prepared delivery now = .ok request)
    {row : DeliveryRow} (hcontent : row.content = delivery.content)
    (hauthentic : row.content.Authentic P) : FaithfulPost P row prepared.signingKey request := by
  obtain ⟨plugin, enqueue, created, hnew, hcreated⟩ := hauthentic
  have hid : row.deliveryId = delivery.deliveryId := congrArg Content.deliveryId hcontent
  have hevent : row.eventId = delivery.eventId := congrArg Content.eventId hcontent
  have hsnapshot : row.payloadSnapshot = delivery.payloadSnapshot :=
    congrArg Content.payloadSnapshot hcontent
  have hdigest : row.payloadSha256 = sha256Hex P row.payloadSnapshot := by
    have hsha : row.payloadSha256 = created.payloadSha256 := congrArg Content.payloadSha256 hcreated
    have hbody : row.payloadSnapshot = created.payloadSnapshot :=
      congrArg Content.payloadSnapshot hcreated
    rw [hsha, hnew.payloadSha256, hbody]
  have hidText : IsVisibleText row.deliveryId := by
    have hcreatedId : row.deliveryId = created.deliveryId := congrArg Content.deliveryId hcreated
    rw [hcreatedId, hnew.deliveryId]
    exact isVisibleText_stableDeliveryId _ _
  have heventText : IsVisibleText row.eventId := by
    have hcreatedEvent : row.eventId = created.eventId := congrArg Content.eventId hcreated
    rw [hcreatedEvent, hnew.eventId]
    exact isVisibleText_of_validEventName hnew.eventName
  -- the request
  cases htime : P.formatRfc3339 now with
  | error error => simp [signedRequest, formatTime, htime, bind, Except.bind] at hrequest
  | ok timestamp =>
    cases hmac : P.hmacSha256 prepared.signingKey with
    | none =>
      simp [signedRequest, formatTime, htime, signPayload, hmac, bind, Except.bind] at hrequest
    | some mac =>
      simp only [signedRequest, formatTime, htime, signPayload, hmac, bind, Except.bind, pure,
        Except.pure, Except.ok.injEq] at hrequest
      subst hrequest
      have hshape := P.formatRfc3339_shape now timestamp htime
      refine ⟨hsnapshot.symm, hsnapshot ▸ hdigest, ?_, ?_, ?_,
        ⟨delivery.deliveryId, timestamp, mac, rfl, rfl, hshape, hmac, rfl⟩, ?_⟩
      · intro lastReceipt answer hanswer
        have hreported : answer.payloadSha256 = row.payloadSha256 :=
          inspectResponse_payloadSha256 hanswer
        rw [hreported, hdigest, hsnapshot]
      · rw [hid]
        rfl
      · rw [hevent]
        rfl
      · intro header hheader
        simp only [webhookHeaders, List.mem_cons, List.not_mem_nil, or_false] at hheader
        rcases hheader with rfl | rfl | rfl | rfl | rfl
        · decide +kernel
        · exact hid ▸ hidText
        · exact hevent ▸ heventText
        · exact ⟨hshape.ne_empty, hshape.isVisibleAscii⟩
        · exact IsVisibleText.append (by decide +kernel)
            (isVisibleAscii_of_mem_hexChars (List.Subset.refl _))

/-- Only a claimed delivery whose endpoint is the active one is sent. -/
theorem Step.posted_inv {s t : Sys P} {label : Label P} (h : Step s label t) {post : Post}
    (hposted : label.observation.posted = some post) :
    ∃ (plugin : OutboundWebhookPlugin P) (prepared : PreparedWebhook P plugin.config)
      (now : OffsetDateTime), label.action = .resume (.claimed plugin prepared post.delivery)
        (.clock now) ∧
      (∃ p ∈ s.pending, p.task = .claimed plugin prepared post.delivery) ∧
      endpointDiffers prepared post.delivery = false ∧
      signedRequest prepared post.delivery now = .ok post.request := by
  cases h with
  | @start begins takesEffect locked call hbegins hnow =>
    have hfirst := call.firstStretch begins locked s.db
    generalize call.start begins locked s.db = effect at hfirst hposted
    cases hfirst with
    | _ => exact nomatch hposted
  | @resume begins takesEffect before after p input effect hbegins hnow hsince hpending heffect =>
    have hp := Sys.mem_of_split hpending
    have hnext := Task.nextStretch begins s.db heffect
    obtain ⟨task, since⟩ := p
    cases hnext with
    | @posted plugin prepared delivery now request hsame hrequest =>
      rw [Option.some.injEq] at hposted
      subst hposted
      exact ⟨plugin, prepared, now, rfl, ⟨_, hp, rfl⟩, hsame, hrequest⟩
    | _ => exact nomatch hposted
  | stop => exact nomatch hposted

/-- The request a step sends, against the row of its delivery. -/
theorem Step.faithfulPost {s t : Sys P} (hinv : s.Inv) {label : Label P} (h : Step s label t)
    {post : Post} (hposted : label.observation.posted = some post) :
    ∃ (plugin : OutboundWebhookPlugin P) (prepared : PreparedWebhook P plugin.config)
      (now : OffsetDateTime) (row : DeliveryRow),
      label.action = .resume (.claimed plugin prepared post.delivery) (.clock now) ∧
      s.db.delivery post.delivery.deliveryId = some row ∧
      row.endpointUrl = plugin.config.endpointUrl ∧ row.endpointOrigin = prepared.endpointOrigin ∧
      FaithfulPost P row prepared.signingKey post.request := by
  obtain ⟨plugin, prepared, now, haction, ⟨p, hp, htask⟩, hsame, hrequest⟩ := h.posted_inv hposted
  have hdispatched : p.task.dispatched = some post.delivery := by rw [htask]; rfl
  obtain ⟨row, hrow, hcontent, -⟩ := (hinv.known p hp _ hdispatched).row
  have hauthentic := hinv.authentic _ _ (Db.life_of_delivery hrow)
  have hurl : row.endpointUrl = post.delivery.endpointUrl := congrArg Content.endpointUrl hcontent
  have horigin : row.endpointOrigin = post.delivery.endpointOrigin :=
    congrArg Content.endpointOrigin hcontent
  simp only [endpointDiffers, Bool.or_eq_false_iff, bne_eq_false_iff_eq] at hsame
  exact ⟨plugin, prepared, now, row, haction, hrow, hurl.trans hsame.1, horigin.trans hsame.2,
    faithfulPost_of_signedRequest hrequest hcontent hauthentic⟩

theorem FaithfulPost.of_content {row row' : DeliveryRow} (hcontent : row'.content = row.content)
    {signingKey : Bytes} {request : SendRequest} (h : FaithfulPost P row' signingKey request) :
    FaithfulPost P row signingKey request := by
  have hid : row'.deliveryId = row.deliveryId := congrArg Content.deliveryId hcontent
  have hevent : row'.eventId = row.eventId := congrArg Content.eventId hcontent
  have hsnapshot : row'.payloadSnapshot = row.payloadSnapshot :=
    congrArg Content.payloadSnapshot hcontent
  have hdigest : row'.payloadSha256 = row.payloadSha256 := congrArg Content.payloadSha256 hcontent
  refine ⟨hsnapshot ▸ h.body, hdigest ▸ h.digest, ?_,
    hid ▸ h.deliveryId, hevent ▸ h.eventId, h.signature, h.visible⟩
  intro lastReceipt answer hanswer
  have hreported : answer.payloadSha256 = row.payloadSha256 := inspectResponse_payloadSha256 hanswer
  rw [hreported, ← hdigest]
  exact h.digest

/-- **A claimed delivery of another endpoint** is not sent, and dead-lettered while its lease is
live. -/
theorem endpoint_changed_step {s t : Sys P} (hinv : s.Inv) {label : Label P} (h : Step s label t)
    {plugin : OutboundWebhookPlugin P} {prepared : PreparedWebhook P plugin.config}
    {delivery : DeliveryRecord} {now : OffsetDateTime}
    (haction : label.action = .resume (.claimed plugin prepared delivery) (.clock now))
    {row : DeliveryRow} (hrow : s.db.delivery delivery.deliveryId = some row)
    (hdiffers : row.endpointUrl ≠ plugin.config.endpointUrl ∨
      row.endpointOrigin ≠ prepared.endpointOrigin) :
    label.observation.posted = none ∧
      (IsLive s.db delivery label.begins → ∃ row',
        t.db.delivery delivery.deliveryId = some row' ∧ row'.status = .deadLetter) := by
  obtain ⟨p, hp, htask, -, effect, heffect, hobservation, hdb⟩ := h.resume_inv haction
  have hdispatched : p.task.dispatched = some delivery := by rw [htask]; rfl
  have hknown := hinv.known p hp _ hdispatched
  obtain ⟨known, hknownRow, hcontent, -⟩ := hknown.row
  rw [hrow, Option.some.injEq] at hknownRow
  subst hknownRow
  have hchanged : endpointDiffers prepared delivery = true := by
    have hurl : row.endpointUrl = delivery.endpointUrl := congrArg Content.endpointUrl hcontent
    have horigin : row.endpointOrigin = delivery.endpointOrigin :=
      congrArg Content.endpointOrigin hcontent
    rw [hurl, horigin] at hdiffers
    simpa [endpointDiffers] using hdiffers
  simp only [Task.resume, attemptDelivery, hchanged, if_true, Option.some.injEq] at heffect
  subst heffect
  rw [hobservation, hdb]
  refine ⟨rfl, ?_⟩
  intro hlive
  obtain ⟨live, hliveRow, hnumber, hstatus, hlease⟩ := hlive.row
  rw [hrow, Option.some.injEq] at hliveRow
  subst hliveRow
  obtain ⟨hmem, hid⟩ := Db.delivery_eq_some_iff.mp hrow
  have hattempts := hknown.attempts
  have hmax := hknown.maxAttempts
  have hcheck : ((endpointChanged P delivery now).call.receipt.toRow
      (endpointChanged P delivery now).call.deliveryId
      (endpointChanged P delivery now).call.replayCount).violation = none := by
    refine AttemptRow.violation_eq_none_iff.mpr ⟨?_, by simp [endpointChanged,
      DeliveryReceipt.toRow]⟩
    simp only [DeliveryReceipt.toRow, endpointChanged]
    omega
  have hfits : FitsColumns (endpointChanged P delivery now).call.replayCount
      (endpointChanged P delivery now).call.receipt :=
    fitsColumns_of_check hknown.replayCount hcheck
  have hfenced : row.isFenced label.begins (endpointChanged P delivery now).call.deliveryId
      (endpointChanged P delivery now).call.replayCount
      (endpointChanged P delivery now).call.receipt.attempt :=
    DeliveryRow.isFenced_iff.mpr ⟨hid, hnumber, hstatus, hlease⟩
  obtain ⟨db', hbody, hd, -⟩ := recordOutcome_eq_ok (endpointChanged P delivery now).call.status
    (endpointChanged P delivery now).call.nextAvailableAt hfits hcheck hmem hfenced
  have hrun : transact ((endpointChanged P delivery now).call.run label.begins) s.db
      = (.ok (), db') := transact_of_eq_ok hbody
  refine ⟨row.assign (outcomeAssignment label.begins .deadLetter none row), ?_, rfl⟩
  simp only [Conclusion.record, hrun]
  rw [Db.delivery_of_map hd (DeliveryRow.updated_deliveryId _ _), hrow, Option.map_some,
    DeliveryRow.updated, if_pos hfenced]
  rfl

/-- **Every request is faithful to its delivery.** -/
theorem every_post_is_faithful (P : Platform) :
    (∀ s label t, (system P).Reachable s → (system P).step s label t → ∀ post,
      label.observation.posted = some post → post.delivery.deliveryId ∈
        s.db.deliveries.map DeliveryRow.deliveryId) ∧
    (∀ s labels t, (system P).Reachable s → (system P).Path s labels t → ∀ row ∈ s.db.deliveries,
      ∀ label ∈ labels, ∀ post, label.observation.posted = some post →
        post.delivery.deliveryId = row.deliveryId →
        ∃ (plugin : OutboundWebhookPlugin P) (prepared : PreparedWebhook P plugin.config)
          (now : OffsetDateTime),
          label.action = .resume (.claimed plugin prepared post.delivery) (.clock now) ∧
          row.endpointUrl = plugin.config.endpointUrl ∧
          row.endpointOrigin = prepared.endpointOrigin ∧
          FaithfulPost P row prepared.signingKey post.request) ∧
    (∀ s label t, (system P).Reachable s → (system P).step s label t →
      ∀ (plugin : OutboundWebhookPlugin P) (prepared : PreparedWebhook P plugin.config)
        (delivery : DeliveryRecord) (now : OffsetDateTime),
        label.action = .resume (.claimed plugin prepared delivery) (.clock now) →
        ∀ row, s.db.delivery delivery.deliveryId = some row →
          row.endpointUrl ≠ plugin.config.endpointUrl ∨
            row.endpointOrigin ≠ prepared.endpointOrigin →
          label.observation.posted = none ∧
            (IsLive s.db delivery label.begins → ∃ row',
              t.db.delivery delivery.deliveryId = some row' ∧ row'.status = .deadLetter)) := by
  refine ⟨?_, ?_, ?_⟩
  · intro s label t hs hstep post hposted
    obtain ⟨-, -, -, row, -, hrow, -⟩ := Step.faithfulPost (reachable_inv hs) hstep hposted
    obtain ⟨hmem, hid⟩ := Db.delivery_eq_some_iff.mp hrow
    exact hid ▸ List.mem_map_of_mem hmem
  · intro s labels t hs hpath row hrow label hlabel post hposted hid
    obtain ⟨before, u, v, hbefore, hstep⟩ := hpath.exists_of_mem hlabel
    obtain ⟨l, hl, hevolves⟩ := path_evolves hs hbefore _ _ (Db.life_of_mem hrow)
    obtain ⟨plugin, prepared, now, row', haction, hrow', hurl, horigin, hfaithful⟩ :=
      Step.faithfulPost (reachable_inv (hs.path hbefore)) hstep hposted
    have hsame : row' = l.row := by
      rw [hid, (Db.life_eq_some_iff.mp hl).1, Option.some.injEq] at hrow'
      exact hrow'.symm
    have hcontent : row'.content = row.content := hsame ▸ hevolves.content
    exact ⟨plugin, prepared, now, haction,
      (congrArg Content.endpointUrl hcontent).symm.trans hurl,
      (congrArg Content.endpointOrigin hcontent).symm.trans horigin, hfaithful.of_content hcontent⟩
  · intro s label t hs hstep plugin prepared delivery now haction row hrow hdiffers
    exact endpoint_changed_step (reachable_inv hs) hstep haction hrow hdiffers

/-- The request of the first order; and what becomes of it at the instance with another endpoint. -/
theorem every_post_is_faithful_first :
    (∃ (s t : Sys reference) (label : Label reference) (post : Post),
      (system reference).Reachable s ∧ (system reference).step s label t ∧
      label.observation.posted = some post ∧
      post.delivery.deliveryId ∈ s.db.deliveries.map DeliveryRow.deliveryId ∧
      FaithfulPost reference (firstOrder.row 0) firstOrder.prepared.signingKey post.request) ∧
    ∃ (s t : Sys reference) (label : Label reference) (row : DeliveryRow),
      (system reference).Reachable s ∧ (system reference).step s label t ∧
      label.observation.posted = none ∧
      t.db.delivery firstOrder.delivery.deliveryId = some row ∧ row.status = .deadLetter := by
  have hfaithful := every_post_is_faithful reference
  constructor
  · have hinit : (system reference).Reachable ⟨Db.empty, 0, []⟩ := ⟨[], _, ⟨rfl, rfl⟩, rfl⟩
    obtain ⟨labels, s, hpath, -, hd, -, hp, hn⟩ := @exists_started reference _ 0 hinit firstOrder
      ⟨List.not_mem_nil, List.not_mem_nil, le_refl 0⟩ (fun row hrow => nomatch hrow) (le_refl 0)
    obtain ⟨request, hrequest⟩ := exists_signedRequest 2 (decodeDelivery (firstOrder.row 0))
    obtain ⟨t, hstep, -⟩ := @exists_post reference s 0 _ _ _ 0 0 [] [] request hp
      (firstOrder.endpointDiffers_eq_false _ rfl) hrequest (le_refl 0) (le_of_eq hn)
    have hs := hinit.path hpath
    have hrow : firstOrder.row 0 ∈ s.db.deliveries := Db.mem_of_last hd
    obtain ⟨plugin, prepared, now, haction, -, -, hpost⟩ := hfaithful.2.1 s [_] t hs
      (TransitionSystem.path_cons.mpr ⟨t, hstep, rfl⟩) _ hrow _ (List.mem_singleton.mpr rfl) _ rfl
      rfl
    obtain ⟨⟨rfl, hprepared⟩, -⟩ :
        (firstOrder.plugin = plugin ∧ HEq firstOrder.prepared prepared) ∧ 0 = now := by
      simpa using haction
    rw [← eq_of_heq hprepared] at hpost
    exact ⟨s, t, _, _, hs, hstep, rfl, hfaithful.1 s _ t hs hstep _ rfl, hpost⟩
  · obtain ⟨s, hs, hd, hp, hn⟩ := exists_first_moved
    obtain ⟨label, t, hstep, haction, hbegins⟩ := @exists_attempt reference s 0 _ _ _ 0 [] [] hp 0
      (le_refl 0) (le_of_eq hn)
    have hrow : firstOrder.row 0 ∈ s.db.deliveries := Db.mem_of_singleton hd
    obtain ⟨hposted, hdead⟩ := hfaithful.2.2 s label t hs hstep movedPlugin movedPrepared _ 0
      haction _ (Db.delivery_of_mem hrow) (.inl (by decide))
    obtain ⟨row, hrow', hstatus⟩ := hdead
      ⟨firstOrder.row 0, Db.delivery_of_mem hrow, rfl, rfl, _, rfl, by rw [hbegins]; decide⟩
    exact ⟨s, t, label, row, hs, hstep, hposted, hrow', hstatus⟩

end OutboundWebhook
