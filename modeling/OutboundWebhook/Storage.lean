import OutboundWebhook.Database
import OutboundWebhook.Foundations.Selection
import Mathlib.Data.Prod.Lex
import Mathlib.Data.String.Basic

/-!
# The storage operations

Four transactions change the tables: `insertOrGet`, `claimDue`, `recordOutcome` and `beginReplay`.
Each takes the transaction's timestamp as an argument, because `transaction_timestamp()` is fixed
when the transaction begins and the transaction may take effect later. `load` reads the tables in
two statements, each of which sees the state committed when it runs.

## One statement, one snapshot

`claimDue` is a single statement with four common table expressions. All of them read the tables
as they were before the statement, so `expired` and `candidate` are computed from the snapshot and
only then are the receipts inserted, the exhausted rows retired and the candidate claimed. A row
is never both retired and claimed: the first needs `attempts >= max_attempts` and the second
`attempts < max_attempts`.

## Row locks

`locked` is the set of deliveries other transactions hold a lock on when the statement runs.
`SKIP LOCKED` passes over them.
-/

namespace OutboundWebhook

def expiredDeliveryMaintenanceBatchLimit : ℕ := 64

/-! ### Records -/

structure DeliveryReceipt where
  attempt : ℤ
  outcome : String
  httpStatus : Option ℤ
  responseSha256 : Option String
  occurredAt : OffsetDateTime
  deriving DecidableEq

structure DeliveryRecord where
  deliveryId : String
  eventId : String
  eventType : String
  endpointUrl : String
  endpointOrigin : String
  payloadSnapshot : Bytes
  payloadSha256 : String
  queueName : String
  status : DeliveryStatus
  attempts : ℤ
  maxAttempts : ℤ
  replayCount : ℤ
  lastReceipt : Option DeliveryReceipt
  deriving DecidableEq

structure NewDelivery where
  deliveryId : String
  eventId : String
  eventType : String
  endpointUrl : String
  endpointOrigin : String
  payloadSnapshot : Bytes
  payloadSha256 : String
  queueName : String
  maxAttempts : ℤ
  availableAt : OffsetDateTime

inductive InsertOutcome
  | created (delivery : DeliveryRecord)
  | existing (delivery : DeliveryRecord)
  | conflict

def decodeDelivery (row : DeliveryRow) : DeliveryRecord where
  deliveryId := row.deliveryId
  eventId := row.eventId
  eventType := row.eventType
  endpointUrl := row.endpointUrl
  endpointOrigin := row.endpointOrigin
  payloadSnapshot := row.payloadSnapshot
  payloadSha256 := row.payloadSha256
  queueName := row.queueName
  status := row.status
  attempts := row.attempts
  maxAttempts := row.maxAttempts
  replayCount := row.replayCount
  lastReceipt := none

def decodeReceipt (a : AttemptRow) : DeliveryReceipt where
  attempt := a.attempt
  outcome := a.outcome
  httpStatus := a.httpStatus
  responseSha256 := a.responseSha256
  occurredAt := ofTimestamptz a.occurredAt

/-- Cycle and attempt number of a record. -/
def DeliveryRecord.number (record : DeliveryRecord) : ℤ × ℤ :=
  (record.replayCount, record.attempts)

@[simp] theorem decodeDelivery_number (row : DeliveryRow) :
    (decodeDelivery row).number = row.number := rfl

/-- The columns a receipt is bound to. -/
def DeliveryReceipt.toRow (receipt : DeliveryReceipt) (deliveryId : String) (replayCount : ℤ) :
    AttemptRow where
  deliveryId := deliveryId
  replayCount := replayCount
  attempt := receipt.attempt
  outcome := receipt.outcome
  httpStatus := receipt.httpStatus
  responseSha256 := receipt.responseSha256
  occurredAt := toTimestamptz receipt.occurredAt

/-! ### `insert_or_get` -/

/-- The row a new delivery is stored as; the other columns take their defaults. -/
def NewDelivery.toRow (now : Timestamptz) (delivery : NewDelivery) : DeliveryRow where
  deliveryId := delivery.deliveryId
  eventId := delivery.eventId
  eventType := delivery.eventType
  endpointUrl := delivery.endpointUrl
  endpointOrigin := delivery.endpointOrigin
  payloadSnapshot := delivery.payloadSnapshot
  payloadSha256 := delivery.payloadSha256
  queueName := delivery.queueName
  status := .queued
  availableAt := toTimestamptz delivery.availableAt
  leaseExpiresAt := none
  attempts := 0
  maxAttempts := delivery.maxAttempts
  replayCount := 0
  createdAt := now
  updatedAt := now

/-- The immutable content an exact duplicate repeats. -/
def NewDelivery.same (delivery : NewDelivery) (existing : DeliveryRecord) : Bool :=
  existing.eventType == delivery.eventType
    && existing.endpointUrl == delivery.endpointUrl
    && existing.endpointOrigin == delivery.endpointOrigin
    && existing.payloadSnapshot == delivery.payloadSnapshot
    && existing.payloadSha256 == delivery.payloadSha256
    && existing.queueName == delivery.queueName

def insertOrGet (now : Timestamptz) (delivery : NewDelivery) : Transaction InsertOutcome := do
  let _ ← i32 delivery.maxAttempts "validated attempts"
  let inserted ← insertDelivery "insert delivery" (delivery.toRow now)
  if inserted = 1 then
    return .created (decodeDelivery (delivery.toRow now))
  let db ← get
  match KeyedTable.lookup DeliveryRow.eventId delivery.eventId db.deliveries with
  | none => abort (.error (.invariant "delivery identity collision"))
  | some row =>
    let existing := decodeDelivery row
    return if delivery.same existing then .existing existing else .conflict

/-! ### `load` -/

/-- The first statement of `load`. -/
def loadDelivery (db : Db) (deliveryId : String) : Option DeliveryRecord :=
  (db.delivery deliveryId).map decodeDelivery

/-- `ORDER BY replay_count DESC, attempt DESC` -/
def newestFirst (a : AttemptRow) : ℤ ×ₗ ℤ := toLex (-a.replayCount, -a.attempt)

/-- The second statement of `load`. -/
def lastReceipt (db : Db) (deliveryId : String) : Option DeliveryReceipt :=
  (Selection.leastBy newestFirst (db.receipts deliveryId)).map decodeReceipt

/-- `load`, its two statements reading the states `atRow` and `atReceipt`. -/
def load (atRow atReceipt : Db) (deliveryId : String) : Option DeliveryRecord :=
  (loadDelivery atRow deliveryId).map fun delivery =>
    { delivery with lastReceipt := lastReceipt atReceipt deliveryId }

/-! ### `claim_due` -/

/-- `lease_expires_at <= now`, which is not true of a missing lease. -/
def DeliveryRow.leaseExpired (now : Timestamptz) (row : DeliveryRow) : Bool :=
  row.leaseExpiresAt.any fun lease => lease ≤ now

/-- `ORDER BY lease_expires_at, delivery_id` -/
def expiryOrder (row : DeliveryRow) : ℤ ×ₗ String :=
  toLex (row.leaseExpiresAt.getD 0, row.deliveryId)

/-- `ORDER BY available_at, created_at, delivery_id` -/
def dueOrder (row : DeliveryRow) : ℤ ×ₗ ℤ ×ₗ String :=
  toLex (row.availableAt, toLex (row.createdAt, row.deliveryId))

/-- A delivering row of the queue whose lease has expired. -/
def DeliveryRow.isExpired (now : Timestamptz) (queueName : String) (row : DeliveryRow) : Bool :=
  row.queueName == queueName && row.status == .delivering && row.leaseExpired now

/-- `expired`: the bounded batch of expired leases. -/
def Db.expired (db : Db) (now : Timestamptz) (locked : List String) (queueName : String) :
    List DeliveryRow :=
  Selection.firstBy expiryOrder expiredDeliveryMaintenanceBatchLimit
    (db.deliveries.filter fun row =>
      row.isExpired now queueName && !locked.contains row.deliveryId)

/-- `status IN ('queued', 'retry_scheduled') AND available_at <= now` -/
def DeliveryRow.isWaiting (now : Timestamptz) (row : DeliveryRow) : Bool :=
  (row.status == .queued || row.status == .retryScheduled) && row.availableAt ≤ now

/-- The condition of `candidate`, given the batch. -/
def DeliveryRow.isCandidate (now : Timestamptz) (queueName : String) (expired : List DeliveryRow)
    (row : DeliveryRow) : Bool :=
  row.queueName == queueName && row.attempts < row.maxAttempts
    && (row.isWaiting now
      || (row.status == .delivering && row.leaseExpired now
        && (expired.map DeliveryRow.deliveryId).contains row.deliveryId))

/-- `candidate`: the row to claim. -/
def Db.candidate (db : Db) (now : Timestamptz) (locked : List String) (queueName : String) :
    Option DeliveryRow :=
  Selection.leastBy dueOrder
    (db.deliveries.filter fun row =>
      row.isCandidate now queueName (db.expired now locked queueName)
        && !locked.contains row.deliveryId)

/-- `receipted` -/
def leaseExpiredReceipt (now : Timestamptz) (row : DeliveryRow) : AttemptRow where
  deliveryId := row.deliveryId
  replayCount := row.replayCount
  attempt := row.attempts
  outcome := "lease_expired"
  httpStatus := none
  responseSha256 := none
  occurredAt := now

/-- `retired` -/
def retireAssignment (now : Timestamptz) (row : DeliveryRow) : Assignment :=
  { row.current with status := .deadLetter, leaseExpiresAt := none, updatedAt := now }

/-- The outer update. -/
def claimAssignment (now : Timestamptz) (leaseSeconds : ℤ) (row : DeliveryRow) : Assignment :=
  { row.current with
    status := .delivering
    attempts := row.attempts + 1
    leaseExpiresAt := some (now + seconds leaseSeconds)
    updatedAt := now }

/-- The rows of the batch that have no attempt left. -/
def isRetired (expired : List DeliveryRow) (row : DeliveryRow) : Bool :=
  expired.any fun e => e.deliveryId == row.deliveryId && e.maxAttempts ≤ e.attempts

def claimDue (now : Timestamptz) (locked : List String) (queueName : String) (leaseSeconds : ℤ) :
    Transaction (Option DeliveryRecord) := do
  let leaseSeconds ← i32 leaseSeconds "validated lease seconds"
  let snapshot ← get
  let expired := snapshot.expired now locked queueName
  let candidate := snapshot.candidate now locked queueName
  insertAttempts "claim due delivery" (expired.map (leaseExpiredReceipt now))
  let _ ← updateDeliveries "claim due delivery" (isRetired expired) (retireAssignment now)
  let _ ← updateDeliveries "claim due delivery"
    (fun row => candidate.any fun c => c.deliveryId == row.deliveryId)
    (claimAssignment now leaseSeconds)
  return candidate.map fun row => decodeDelivery (row.assign (claimAssignment now leaseSeconds row))

/-! ### `record_outcome` -/

/-- The fence: the row is still delivering this very attempt under a lease after `now`. -/
def DeliveryRow.isFenced (now : Timestamptz) (deliveryId : String) (replayCount attempt : ℤ)
    (row : DeliveryRow) : Bool :=
  row.deliveryId == deliveryId && row.replayCount == replayCount && row.attempts == attempt
    && row.status == .delivering && row.leaseExpiresAt.any fun lease => now < lease

def outcomeAssignment (now : Timestamptz) (status : DeliveryStatus)
    (nextAvailableAt : Option OffsetDateTime) (row : DeliveryRow) : Assignment :=
  { row.current with
    status := status
    availableAt := (nextAvailableAt.map toTimestamptz).getD row.availableAt
    leaseExpiresAt := if status = .delivering then row.leaseExpiresAt else none
    updatedAt := now }

def ensureUpdated (rows : ℕ) (operation : String) : Transaction Unit :=
  if rows = 1 then pure () else abort (.error (.invariant operation))

def recordOutcome (now : Timestamptz) (deliveryId : String) (replayCount : ℤ)
    (receipt : DeliveryReceipt) (status : DeliveryStatus)
    (nextAvailableAt : Option OffsetDateTime) : Transaction Unit := do
  let _ ← i32 replayCount "bounded replay count"
  let _ ← i32 receipt.attempt "bounded attempt"
  let _ ← optionI32 receipt.httpStatus "HTTP status"
  let _ ← insertAttempt "insert delivery receipt" (receipt.toRow deliveryId replayCount)
  let updated ← updateDeliveries "update delivery outcome"
    (DeliveryRow.isFenced now deliveryId replayCount receipt.attempt)
    (outcomeAssignment now status nextAvailableAt)
  ensureUpdated updated "record fenced delivery outcome"

/-! ### `begin_replay` -/

def DeliveryRow.isReplayable (deliveryId : String) (row : DeliveryRow) : Bool :=
  row.deliveryId == deliveryId && row.status == .deadLetter && row.replayCount < 1000000

def replayAssignment (now : Timestamptz) (row : DeliveryRow) : Assignment where
  status := .queued
  availableAt := now
  leaseExpiresAt := none
  attempts := 0
  replayCount := row.replayCount + 1
  updatedAt := now

def beginReplay (now : Timestamptz) (deliveryId : String) :
    Transaction (Option DeliveryRecord) := do
  let snapshot ← get
  let _ ← updateDeliveries "begin dead-letter replay" (DeliveryRow.isReplayable deliveryId)
    (replayAssignment now)
  return ((snapshot.delivery deliveryId).filter (DeliveryRow.isReplayable deliveryId)).map
    fun row => decodeDelivery (row.assign (replayAssignment now row))

end OutboundWebhook
