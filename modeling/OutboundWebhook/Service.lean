import OutboundWebhook.Config
import OutboundWebhook.Protocol
import Mathlib.Algebra.Ring.Int.Defs

/-!
# The calls of the plugin, cut at their store calls

Each asynchronous function of the service runs to its next `await` of the store or of the HTTP
port. Such a stretch is one function here. It returns an `Effect`: what could be observed of it,
the `Task` that is left to do, and the tables after it.

* `enqueueDelivery` is one stretch, its transaction is `insertOrGet`.
* `dispatchDelivery` ends with the claim. The task it leaves either records that the endpoint has
  changed or sends the request (`attemptDelivery`), and in the second case the task that is left
  then waits for the HTTP result (`finishDispatch`).
* `inspectDelivery` and `replayDelivery` read the row first and the newest receipt second, and a
  replay then goes on to `beginReplay`.

A worker may stop between any two stretches. Nothing here depends on the task being resumed.
-/

namespace OutboundWebhook

/-! ### Errors of the flows -/

inductive DispatchError
  | forbidden
  deriving DecidableEq

inductive InspectError
  | forbidden
  | invalidDelivery
  | notFound
  deriving DecidableEq

inductive ReplayError
  | forbidden
  | invalidDelivery
  | notFound
  | notDeadLetter
  deriving DecidableEq

inductive FlowError
  | domain (error : EnqueueError)
  | runtime (error : RuntimeFailure)
  deriving DecidableEq

inductive AdminFlowError
  | dispatch (error : DispatchError)
  | inspect (error : InspectError)
  | replay (error : ReplayError)
  | runtime (error : RuntimeFailure)
  deriving DecidableEq

structure ReplayResponse where
  replayCount : ℤ
  deriving DecidableEq

def storeFailure (error : StoreError) : RuntimeFailure := .pluginFailure error.toString

/-- `map_err(|error| wrap(store_failure(&error)))`; a panic is not caught. -/
def mapStoreFailure {ε : Type} (wrap : RuntimeFailure → ε) : Abort StoreError → Abort ε
  | .error error => .error (wrap (storeFailure error))
  | .panic message => .panic message

/-! ### Plugin instances -/

variable (P : Platform)

/-- What `activate` leaves behind for the calls. -/
structure PreparedWebhook (config : OutboundWebhookConfig) where
  endpoint : Url
  endpoint_eq : fixedEndpoint P config.endpointUrl = .ok endpoint
  endpointOrigin : String
  endpointOrigin_eq : endpointOrigin = endpoint.originAscii
  signingKey : Bytes
  signingKey_length : 32 ≤ signingKey.length

/-- `activate` after the secrets are resolved. `storage` is the result of preparing the owned
schema. -/
def activate (config : OutboundWebhookConfig) (valid : ValidConfig P config) (signingKey : String)
    (storage : Except String Unit) : Except RuntimeFailure (PreparedWebhook P config) :=
  if hkey : (asBytes signingKey).length < 32 then
    .error (.pluginFailure "Outbound Webhook signing secret must contain at least 32 bytes")
  else match P.schemaPlan config.schema with
  | .error error =>
    .error (.invalidResolvedPlan ("Outbound Webhook schema plan is invalid: " ++ error))
  | .ok () => match storage with
    | .error error =>
      .error (.pluginFailure ("Outbound Webhook storage is unavailable: " ++ error))
    | .ok () => match hendpoint : fixedEndpoint P config.endpointUrl with
      | .ok endpoint => .ok {
          endpoint := endpoint
          endpoint_eq := hendpoint
          endpointOrigin := endpoint.originAscii
          endpointOrigin_eq := rfl
          signingKey := asBytes signingKey
          signingKey_length := not_lt.mp hkey }
      | .error _ => absurd valid.endpoint (by simp [hendpoint])

/-- An instance: its validated configuration, and what it prepared if it is active. -/
structure OutboundWebhookPlugin where
  config : OutboundWebhookConfig
  validated : config.validate P = .ok ()
  active : Option (PreparedWebhook P config)

variable {P}

theorem OutboundWebhookPlugin.valid (plugin : OutboundWebhookPlugin P) :
    ValidConfig P plugin.config :=
  plugin.config.validConfig_of_validate P plugin.validated

def OutboundWebhookPlugin.prepared (plugin : OutboundWebhookPlugin P) :
    Except RuntimeFailure (PreparedWebhook P plugin.config) :=
  match plugin.active with
  | some prepared => .ok prepared
  | none => .error (.pluginFailure "Outbound Webhook Plugin is not active")

def OutboundWebhookConfig.producerAllowed (c : OutboundWebhookConfig) (caller : Option String) :
    Bool :=
  caller.any fun caller => c.producerInstances.contains caller

def OutboundWebhookConfig.adminAllowed (c : OutboundWebhookConfig) (caller : Option String) :
    Bool :=
  caller.any fun caller => c.adminInstances.contains caller

/-! ### Tasks, observations and effects -/

/-- One call of `record_outcome`. -/
structure OutcomeCall where
  deliveryId : String
  replayCount : ℤ
  receipt : DeliveryReceipt
  status : DeliveryStatus
  nextAvailableAt : Option OffsetDateTime

/-- The transaction of the call. -/
def OutcomeCall.run (begins : Timestamptz) (call : OutcomeCall) : Transaction Unit :=
  recordOutcome begins call.deliveryId call.replayCount call.receipt call.status
    call.nextAvailableAt

/-- A transaction that took effect, and what it returned. -/
inductive Stored
  | enqueue (delivery : NewDelivery) (result : Except (Abort StoreError) InsertOutcome)
  | claim (queueName : String) (result : Except (Abort StoreError) (Option DeliveryRecord))
  | outcome (call : OutcomeCall) (result : Except (Abort StoreError) Unit)
  | replay (deliveryId : String) (result : Except (Abort StoreError) (Option DeliveryRecord))

/-- A request given to the HTTP port for a claimed delivery. -/
structure Post where
  delivery : DeliveryRecord
  request : SendRequest

/-- The end of a call. -/
inductive Answer
  | enqueue (answer : Except (Abort FlowError) EnqueueResponse)
  | dispatch (answer : Except (Abort AdminFlowError) DispatchResponse)
  | inspect (answer : Except (Abort AdminFlowError) InspectResponse)
  | replay (answer : Except (Abort AdminFlowError) ReplayResponse)

/-- What can be observed of one stretch. -/
structure Observation where
  stored : Option Stored
  posted : Option Post
  answer : Option Answer

variable (P)

/-- What is left of a call after one of its stretches. -/
inductive Task
  /-- A dispatch that has claimed a delivery. -/
  | claimed (plugin : OutboundWebhookPlugin P) (prepared : PreparedWebhook P plugin.config)
      (delivery : DeliveryRecord)
  /-- A dispatch that waits for the HTTP result. -/
  | posted (plugin : OutboundWebhookPlugin P) (delivery : DeliveryRecord)
  /-- An inspect that has read the row. -/
  | inspecting (delivery : DeliveryRecord)
  /-- A replay that has read the row. -/
  | replaying (delivery : DeliveryRecord)
  /-- A replay that has found its delivery dead-lettered. -/
  | replayable (deliveryId : String)

/-- One stretch of a call. -/
structure Effect where
  observation : Observation
  task : Option (Task P)
  db : Db

variable {P}

/-- A stretch that ends the call and runs no transaction. -/
def Effect.ended (answer : Answer) (db : Db) : Effect P where
  observation := { stored := none, posted := none, answer := some answer }
  task := none
  db := db

/-- A stretch that only reads. -/
def Effect.pending (task : Task P) (db : Db) : Effect P where
  observation := { stored := none, posted := none, answer := none }
  task := some task
  db := db

/-! ### Enqueue -/

/-- What `enqueue_delivery` checks and builds before it calls the store. -/
def newDelivery (plugin : OutboundWebhookPlugin P) (caller : Option String) (now : OffsetDateTime)
    (request : EnqueueRequest) : Except FlowError NewDelivery :=
  if !plugin.config.producerAllowed caller then .error (.domain .forbidden)
  else if !validEventName request.eventId || !validEventName request.eventType then
    .error (.domain .invalidEvent)
  else match plugin.prepared with
  | .error error => .error (.runtime error)
  | .ok prepared =>
    let snapshot := payloadSnapshot request
    if plugin.config.maxPayloadBytes < snapshot.length then .error (.domain .invalidEvent)
    else .ok {
      deliveryId := stableDeliveryId P plugin.config.endpointUrl request.eventId
      eventId := request.eventId
      eventType := request.eventType
      endpointUrl := plugin.config.endpointUrl
      endpointOrigin := prepared.endpointOrigin
      payloadSnapshot := snapshot
      payloadSha256 := sha256Hex P snapshot
      queueName := plugin.config.queueName
      maxAttempts := plugin.config.maxAttempts
      availableAt := databaseTimestampNow now }

/-- What `enqueue_delivery` makes of the store's result. -/
def enqueueAnswer (deliveryId : String) :
    Except (Abort StoreError) InsertOutcome → Except (Abort FlowError) EnqueueResponse
  | .error error => .error (mapStoreFailure .runtime error)
  | .ok (.created delivery) =>
    .ok { deliveryId := deliveryId, created := true, status := delivery.status }
  | .ok (.existing delivery) =>
    .ok { deliveryId := deliveryId, created := false, status := delivery.status }
  | .ok .conflict => .error (.error (.domain .idempotencyConflict))

def enqueueDelivery (plugin : OutboundWebhookPlugin P) (caller : Option String)
    (now : OffsetDateTime) (request : EnqueueRequest) (begins : Timestamptz) (db : Db) : Effect P :=
  match newDelivery plugin caller now request with
  | .error error => .ended (.enqueue (.error (.error error))) db
  | .ok delivery =>
    let result := transact (insertOrGet begins delivery) db
    { observation :=
        { stored := some (.enqueue delivery result.1)
          posted := none
          answer := some (.enqueue (enqueueAnswer delivery.deliveryId result.1)) }
      task := none
      db := result.2 }

/-! ### Dispatch -/

/-- What `dispatch_delivery` makes of the claim: an answer, or a task. -/
def claimAnswer (plugin : OutboundWebhookPlugin P) (prepared : PreparedWebhook P plugin.config) :
    Except (Abort StoreError) (Option DeliveryRecord) → Option Answer × Option (Task P)
  | .error error => (some (.dispatch (.error (mapStoreFailure .runtime error))), none)
  | .ok none => (some (.dispatch (.ok idleDispatch)), none)
  | .ok (some delivery) => (none, some (.claimed plugin prepared delivery))

def dispatchDelivery (plugin : OutboundWebhookPlugin P) (caller : Option String)
    (begins : Timestamptz) (locked : List String) (db : Db) : Effect P :=
  if !plugin.config.adminAllowed caller then
    .ended (.dispatch (.error (.error (.dispatch .forbidden)))) db
  else match plugin.prepared with
  | .error error => .ended (.dispatch (.error (.error (.runtime error)))) db
  | .ok prepared =>
    let result := transact
      (claimDue begins locked plugin.config.queueName plugin.config.leaseSeconds) db
    let next := claimAnswer plugin prepared result.1
    { observation :=
        { stored := some (.claim plugin.config.queueName result.1)
          posted := none
          answer := next.1 }
      task := next.2
      db := result.2 }

/-- An outcome to be recorded and, once it is, the end of the dispatch. -/
structure Conclusion where
  call : OutcomeCall
  answer : Except (Abort AdminFlowError) DispatchResponse

/-- Record the outcome; the dispatch ends either way. -/
def Conclusion.record (conclusion : Conclusion) (begins : Timestamptz) (db : Db) : Effect P :=
  let result := transact (conclusion.call.run begins) db
  { observation :=
      { stored := some (.outcome conclusion.call result.1)
        posted := none
        answer := some (.dispatch (match result.1 with
          | .ok () => conclusion.answer
          | .error error => .error (mapStoreFailure .runtime error))) }
    task := none
    db := result.2 }

variable (P) in
/-- The stored endpoint is not the configured one. -/
def endpointChanged (delivery : DeliveryRecord) (now : OffsetDateTime) : Conclusion :=
  let receipt : DeliveryReceipt :=
    { attempt := delivery.attempts
      outcome := "endpoint_configuration_changed"
      httpStatus := none
      responseSha256 := none
      occurredAt := now }
  { call :=
      { deliveryId := delivery.deliveryId
        replayCount := delivery.replayCount
        receipt := receipt
        status := .deadLetter
        nextAvailableAt := none }
    answer := dispatchResponse P delivery.deliveryId .deadLettered receipt }

/-- The signed request for a claimed delivery. -/
def signedRequest {config : OutboundWebhookConfig} (prepared : PreparedWebhook P config)
    (delivery : DeliveryRecord) (now : OffsetDateTime) : Except RuntimeFailure SendRequest := do
  let timestamp ← formatTime P now
  let signature ← signPayload P prepared.signingKey delivery.deliveryId timestamp
    delivery.payloadSnapshot
  return {
    body := delivery.payloadSnapshot
    headers := webhookHeaders delivery timestamp signature
    method := "POST"
    url := prepared.endpoint.asStr }

/-- The delivery was stored for another endpoint than the active one. -/
def endpointDiffers {config : OutboundWebhookConfig} (prepared : PreparedWebhook P config)
    (delivery : DeliveryRecord) : Bool :=
  delivery.endpointUrl != config.endpointUrl || delivery.endpointOrigin != prepared.endpointOrigin

/-- `dispatch_delivery` from the claim to the HTTP port. -/
def attemptDelivery (plugin : OutboundWebhookPlugin P) (prepared : PreparedWebhook P plugin.config)
    (delivery : DeliveryRecord) (now : OffsetDateTime) (begins : Timestamptz) (db : Db) :
    Effect P :=
  if endpointDiffers prepared delivery then (endpointChanged P delivery now).record begins db
  else match signedRequest prepared delivery now with
  | .error error => .ended (.dispatch (.error (.error (.runtime error)))) db
  | .ok request =>
    { observation := { stored := none, posted := some ⟨delivery, request⟩, answer := none }
      task := some (.posted plugin delivery)
      db := db }

/-! ### The HTTP result -/

/-- Saturation at the bounds of `i64`. -/
def saturateI64 (n : ℤ) : ℤ := max (-9223372036854775808) (min 9223372036854775807 n)

/-- `u32::try_from`. -/
def u32TryFrom (n : ℤ) : Option ℕ := if 0 ≤ n ∧ n < 4294967296 then some n.toNat else none

/-- `i64::checked_shl`: a shift by 64 or more is refused, a bit that is shifted out is lost. -/
def checkedShl (n : ℤ) (exponent : ℕ) : Option ℤ :=
  if exponent < 64 then some ((n * 2 ^ exponent).bmod 18446744073709551616) else none

def retryDelaySeconds (attempt baseSeconds maxSeconds : ℤ) : ℤ :=
  let exponent := (u32TryFrom (max 0 (min 62 (saturateI64 (attempt - 1))))).getD 62
  min (saturateI64 (baseSeconds * (checkedShl 1 exponent).getD 9223372036854775807)) maxSeconds

variable (P) in
/-- The receipt of a result that is not a runtime failure, and the failure it is classified as. -/
def classify (delivery : DeliveryRecord) (receivedAt : OffsetDateTime) :
    Except SendError SendResponse → DeliveryReceipt × Option DeliveryFailure
  | .ok response =>
    let failure :=
      if 200 ≤ response.status ∧ response.status < 300 then none
      else some (httpStatusFailure response.status)
    ({ attempt := delivery.attempts
       outcome := failure.elim "delivered" DeliveryFailure.code
       httpStatus := some response.status
       responseSha256 := some (sha256Hex P response.body)
       occurredAt := receivedAt }, failure)
  | .error error =>
    let failure := httpDomainFailure error
    ({ attempt := delivery.attempts
       outcome := failure.code
       httpStatus := none
       responseSha256 := none
       occurredAt := receivedAt }, some failure)

/-- What a classified result leads to: the next status, the reported outcome and the next
availability. A retry time that the clock's type cannot hold is a panic. -/
def conclude (config : OutboundWebhookConfig) (delivery : DeliveryRecord)
    (decidedAt : OffsetDateTime) : Option DeliveryFailure →
      Except (Abort AdminFlowError)
        (DeliveryStatus × DispatchResponseOutcome × Option OffsetDateTime)
  | none => .ok (.delivered, .delivered, none)
  | some failure =>
    if failure.retryable && delivery.attempts < delivery.maxAttempts then
      let delay := retryDelaySeconds delivery.attempts config.retryBaseSeconds
        config.retryMaxSeconds
      match (databaseTimestampNow decidedAt).checkedAdd delay with
      | some nextAvailableAt => .ok (.retryScheduled, .retryScheduled, some nextAvailableAt)
      | none => .error (.panic "resulting value is out of range")
    else .ok (.deadLetter, .deadLettered, none)

variable (P) in
/-- The outcome of a result that is not a runtime failure. -/
def finishResult (config : OutboundWebhookConfig) (delivery : DeliveryRecord)
    (receivedAt decidedAt : OffsetDateTime) (result : Except SendError SendResponse) :
    Except (Abort AdminFlowError) Conclusion := do
  let (receipt, failure) := classify P delivery receivedAt result
  let (status, outcome, nextAvailableAt) ← conclude config delivery decidedAt failure
  return {
    call :=
      { deliveryId := delivery.deliveryId
        replayCount := delivery.replayCount
        receipt := receipt
        status := status
        nextAvailableAt := nextAvailableAt }
    answer := dispatchResponse P delivery.deliveryId outcome receipt }

variable (P) in
/-- `finish_dispatch` up to the store call. The clock is read when the receipt is made and again
when the next attempt is scheduled. -/
def finishOutcome (config : OutboundWebhookConfig) (delivery : DeliveryRecord)
    (response : Except ClientInvocationError SendResponse)
    (receivedAt decidedAt : OffsetDateTime) : Except (Abort AdminFlowError) Conclusion :=
  match response with
  | .ok response => finishResult P config delivery receivedAt decidedAt (.ok response)
  | .error (.domain error) => finishResult P config delivery receivedAt decidedAt (.error error)
  | .error (.runtime error) => .ok {
      call :=
        { deliveryId := delivery.deliveryId
          replayCount := delivery.replayCount
          receipt :=
            { attempt := delivery.attempts
              outcome := "http_runtime_failure"
              httpStatus := none
              responseSha256 := none
              occurredAt := receivedAt }
          status := .delivering
          nextAvailableAt := none }
      answer := .error (.error (.runtime error)) }

/-- `finish_dispatch`, with the clock readings as for the outcome. A panic on the way to the store
call ends the dispatch there. -/
def finishDispatch (plugin : OutboundWebhookPlugin P) (delivery : DeliveryRecord)
    (response : Except ClientInvocationError SendResponse) (receivedAt decidedAt : OffsetDateTime)
    (begins : Timestamptz) (db : Db) : Effect P :=
  match finishOutcome P plugin.config delivery response receivedAt decidedAt with
  | .error abort => .ended (.dispatch (.error abort)) db
  | .ok conclusion => conclusion.record begins db

/-! ### Inspect and replay -/

/-- The checks of an admin call on one delivery. -/
def adminRequest {ε : Type} (plugin : OutboundWebhookPlugin P) (caller : Option String)
    (deliveryId : String) (forbidden invalidDelivery : ε) (runtime : RuntimeFailure → ε) :
    Except ε Unit :=
  if !plugin.config.adminAllowed caller then .error forbidden
  else if !validDeliveryId deliveryId then .error invalidDelivery
  else match plugin.prepared with
  | .error error => .error (runtime error)
  | .ok _ => .ok ()

def inspectDelivery (plugin : OutboundWebhookPlugin P) (caller : Option String)
    (deliveryId : String) (db : Db) : Effect P :=
  match adminRequest plugin caller deliveryId (.inspect .forbidden) (.inspect .invalidDelivery)
    .runtime with
  | .error error => .ended (.inspect (.error (.error error))) db
  | .ok () => match loadDelivery db deliveryId with
    | none => .ended (.inspect (.error (.error (.inspect .notFound)))) db
    | some delivery => .pending (.inspecting delivery) db

/-- The second statement of the `load` of an inspect. -/
def inspectReceipt (delivery : DeliveryRecord) (db : Db) : Effect P :=
  .ended (.inspect (inspectResponse P
    { delivery with lastReceipt := lastReceipt db delivery.deliveryId })) db

def replayDelivery (plugin : OutboundWebhookPlugin P) (caller : Option String)
    (deliveryId : String) (db : Db) : Effect P :=
  match adminRequest plugin caller deliveryId (.replay .forbidden) (.replay .invalidDelivery)
    .runtime with
  | .error error => .ended (.replay (.error (.error error))) db
  | .ok () => match loadDelivery db deliveryId with
    | none => .ended (.replay (.error (.error (.replay .notFound)))) db
    | some delivery => .pending (.replaying delivery) db

/-- The second statement of the `load` of a replay, whose receipt is not looked at. -/
def replayReceipt (delivery : DeliveryRecord) (db : Db) : Effect P :=
  if delivery.status ≠ .deadLetter then
    .ended (.replay (.error (.error (.replay .notDeadLetter)))) db
  else .pending (.replayable delivery.deliveryId) db

def replayAnswer :
    Except (Abort StoreError) (Option DeliveryRecord) → Except (Abort AdminFlowError) ReplayResponse
  | .error error => .error (mapStoreFailure .runtime error)
  | .ok none => .error (.error (.replay .notDeadLetter))
  | .ok (some delivery) => .ok { replayCount := delivery.replayCount }

/-- The store call of a replay. -/
def replayStored (deliveryId : String) (begins : Timestamptz) (db : Db) : Effect P :=
  let result := transact (beginReplay begins deliveryId) db
  { observation :=
      { stored := some (.replay deliveryId result.1)
        posted := none
        answer := some (.replay (replayAnswer result.1)) }
    task := none
    db := result.2 }

end OutboundWebhook
