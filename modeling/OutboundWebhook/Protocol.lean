import OutboundWebhook.Storage
import OutboundWebhook.Foundations.Json

/-!
# Bytes on the wire, and the answers to callers

What a delivery is called, what is sent for it, how a result of the HTTP call is classified, and
how a stored row is shown to a caller.

A `BTreeMap` iterates in the order of its keys, so its entries are a sorted list. `serde_json`
writes the members of a nested object in the order it received them.
-/

namespace OutboundWebhook

/-! ### Types of the capability contracts -/

/-- A map in the order of its keys. -/
structure BTreeMap where
  entries : List (String × Json)
  sorted : entries.Pairwise fun a b => a.1 < b.1

structure EnqueueRequest where
  eventId : String
  eventType : String
  payload : BTreeMap

inductive EnqueueError
  | invalidEvent
  | idempotencyConflict
  | forbidden
  deriving DecidableEq

structure EnqueueResponse where
  deliveryId : String
  created : Bool
  status : DeliveryStatus
  deriving DecidableEq

/-- The receipt of an inspect and of a dispatch response: both have these five fields. -/
structure ResponseReceipt where
  attempt : ℤ
  httpStatus : Option String
  occurredAt : String
  outcome : String
  responseSha256 : Option String
  deriving DecidableEq

structure InspectResponse where
  attempts : ℤ
  deliveryId : String
  endpointOrigin : String
  eventId : String
  eventType : String
  lastReceipt : Option ResponseReceipt
  maxAttempts : ℤ
  payloadSha256 : String
  replayCount : ℤ
  status : DeliveryStatus
  deriving DecidableEq

inductive DispatchResponseOutcome
  | idle
  | delivered
  | retryScheduled
  | deadLettered
  deriving DecidableEq

structure DispatchResponse where
  deliveryId : Option String
  outcome : DispatchResponseOutcome
  receipt : Option ResponseReceipt
  deriving DecidableEq

/-- Failures of the runtime. Those the plugin does not raise itself are `other`. -/
inductive RuntimeFailure
  | pluginFailure (detail : String)
  | invalidResolvedPlan (detail : String)
  | other (description : String)
  deriving DecidableEq

/-! ### Types of the HTTP Client port -/

structure SendRequestHeadersItem where
  name : String
  value : String
  deriving DecidableEq

structure SendRequest where
  body : Bytes
  headers : List SendRequestHeadersItem
  method : String
  url : String
  deriving DecidableEq

/-- The port's status is any `i64`. -/
structure SendResponse where
  status : ℤ
  body : Bytes

inductive SendError
  | timeout
  | transportFailure
  | responseTooLarge
  | destinationNotAllowed
  | invalidRequest
  | requestTooLarge
  | unknown (code : String)

inductive ClientInvocationError
  | domain (error : SendError)
  | runtime (error : RuntimeFailure)

/-! ### Digests and identities -/

def hexAlphabet : List Char := "0123456789abcdef".toList

/-- The two digits of each octet. -/
def hexChars (value : Bytes) : List Char :=
  value.flatMap fun byte : UInt8 =>
    [hexAlphabet.getD (byte >>> 4).toNat '0', hexAlphabet.getD (byte &&& 0x0f).toNat '0']

def hex (value : Bytes) : String := String.ofList (hexChars value)

variable (P : Platform)

def sha256Hex (value : Bytes) : String := hex (P.sha256 value)

/-- The octets a delivery id is the digest of. -/
def deliveryIdPreimage (endpointUrl eventId : String) : Bytes :=
  asBytes endpointUrl ++ [0] ++ asBytes eventId

def stableDeliveryId (endpointUrl eventId : String) : String :=
  "wh_" ++ String.ofList ((hexChars (P.sha256 (deliveryIdPreimage endpointUrl eventId))).take 48)

def validEventName (value : String) : Bool :=
  !(asBytes value).isEmpty && (asBytes value).length ≤ 256
    && (asBytes value).all fun b =>
      isAsciiAlphanumeric b || b == 0x2e || b == 0x5f || b == 0x2d || b == 0x3a || b == 0x2f

def validDeliveryId (value : String) : Bool :=
  (asBytes value).length == 51 && (asBytes "wh_").isPrefixOf (asBytes value)
    && ((asBytes value).drop 3).all isAsciiHexdigit

/-! ### The snapshot -/

/-- `serde_json::to_vec(&WebhookEnvelope { .. })`, which cannot fail: every key is a string. -/
def payloadSnapshot (request : EnqueueRequest) : Bytes :=
  (Json.object
    [("event_id", .string request.eventId),
     ("event_type", .string request.eventType),
     ("payload", .object request.payload.entries)]).toVec

/-! ### The request -/

/-- The octets the code is taken of. -/
def signedBytes (deliveryId timestamp : String) (payload : Bytes) : Bytes :=
  asBytes deliveryId ++ [0x2e] ++ asBytes timestamp ++ [0x2e] ++ payload

def signPayload (key : Bytes) (deliveryId timestamp : String) (payload : Bytes) :
    Except RuntimeFailure String :=
  match P.hmacSha256 key with
  | none => .error (.pluginFailure "Outbound Webhook signing secret is invalid")
  | some mac => .ok (hex (mac (signedBytes deliveryId timestamp payload)))

def webhookHeaders (delivery : DeliveryRecord) (timestamp signature : String) :
    List SendRequestHeadersItem :=
  [⟨"content-type", "application/json"⟩,
   ⟨"x-lenso-webhook-id", delivery.deliveryId⟩,
   ⟨"x-lenso-webhook-event-id", delivery.eventId⟩,
   ⟨"x-lenso-webhook-timestamp", timestamp⟩,
   ⟨"x-lenso-webhook-signature", "v1=" ++ signature⟩]

/-! ### Classifying the result -/

structure DeliveryFailure where
  code : String
  retryable : Bool
  deriving DecidableEq

def httpStatusFailure (status : ℤ) : DeliveryFailure where
  code := "http_status_" ++ toString status
  retryable := status == 408 || status == 429 || (500 ≤ status && status < 600)

def httpDomainFailure : SendError → DeliveryFailure
  | .timeout => ⟨"http_timeout", true⟩
  | .transportFailure => ⟨"http_transport_failure", true⟩
  | .responseTooLarge => ⟨"http_response_too_large", false⟩
  | .destinationNotAllowed => ⟨"http_destination_not_allowed", false⟩
  | .invalidRequest => ⟨"http_invalid_request", false⟩
  | .requestTooLarge => ⟨"http_request_too_large", false⟩
  | .unknown _ => ⟨"http_unknown_failure", false⟩

/-! ### Times -/

def formatTime (value : OffsetDateTime) : Except RuntimeFailure String :=
  match P.formatRfc3339 value with
  | .ok text => .ok text
  | .error error =>
    .error (.pluginFailure ("Outbound Webhook timestamp could not be encoded: " ++ error))

/-- `OffsetDateTime::now_utc()` with the nanoseconds below a microsecond dropped. -/
def databaseTimestampNow (now : OffsetDateTime) : OffsetDateTime where
  unixTimestampNanos := now.unixTimestampNanos / 1000 * 1000
  isInstant := by
    obtain ⟨hlow, hhigh⟩ := now.isInstant
    rw [IsInstant]
    omega

/-! ### Responses

`inspect_status` and `enqueue_status` rename the five statuses one by one; here they are the same
enumeration. -/

/-- `inspect_receipt` and `dispatch_receipt`: the time is formatted, and a time that cannot be is a
panic. -/
def responseReceipt {ε : Type} (receipt : DeliveryReceipt) : Except (Abort ε) ResponseReceipt :=
  match formatTime P receipt.occurredAt with
  | .error _ => .error (.panic "stored PostgreSQL timestamp")
  | .ok occurredAt => .ok {
      attempt := receipt.attempt
      httpStatus := receipt.httpStatus.map toString
      occurredAt := occurredAt
      outcome := receipt.outcome
      responseSha256 := receipt.responseSha256 }

def inspectResponse {ε : Type} (delivery : DeliveryRecord) : Except (Abort ε) InspectResponse := do
  let lastReceipt ← delivery.lastReceipt.mapM (responseReceipt P)
  return {
    attempts := delivery.attempts
    deliveryId := delivery.deliveryId
    endpointOrigin := delivery.endpointOrigin
    eventId := delivery.eventId
    eventType := delivery.eventType
    lastReceipt := lastReceipt
    maxAttempts := delivery.maxAttempts
    payloadSha256 := delivery.payloadSha256
    replayCount := delivery.replayCount
    status := delivery.status }

def dispatchResponse {ε : Type} (deliveryId : String) (outcome : DispatchResponseOutcome)
    (receipt : DeliveryReceipt) : Except (Abort ε) DispatchResponse := do
  let receipt ← responseReceipt P receipt
  return { deliveryId := some deliveryId, outcome := outcome, receipt := some receipt }

def idleDispatch : DispatchResponse where
  deliveryId := none
  outcome := .idle
  receipt := none

end OutboundWebhook
