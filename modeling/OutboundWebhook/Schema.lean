import OutboundWebhook.Platform
import OutboundWebhook.Foundations.KeyedTable

/-!
# The two tables

`webhook_deliveries` holds one row for each delivery and `webhook_delivery_attempts` one row for
each receipted attempt. A `Db` is a content of both that meets every constraint the migration
declares: primary keys, the unique event id, the foreign key and the `CHECK`s are fields, so a
state the database would refuse cannot be built.

## Columns that no statement assigns

The `UPDATE`s of this plugin assign six columns. `Assignment` is that list, and `assign` is the
only way a row changes; everything else about a row is therefore what its `INSERT` wrote.

## Not here

The status column is text with a `CHECK` on its five values. It is the enumeration itself, with
`parse_asStr` as the reason why nothing is lost.

PostgreSQL keeps no U+0000 in a text column, and of the texts that are stored only the endpoint URL
may hold one. A statement that binds such a URL is refused by the database before it reads a row,
which counts as a failure of the database and not as a constraint.
-/

namespace OutboundWebhook

/-! ### Status -/

inductive DeliveryStatus
  | queued
  | delivering
  | retryScheduled
  | delivered
  | deadLetter
  deriving DecidableEq

def DeliveryStatus.asStr : DeliveryStatus → String
  | .queued => "queued"
  | .delivering => "delivering"
  | .retryScheduled => "retry_scheduled"
  | .delivered => "delivered"
  | .deadLetter => "dead_letter"

/-- `none` is the invariant failure `unknown delivery status`. -/
def DeliveryStatus.parse (value : String) : Option DeliveryStatus :=
  if value = "queued" then some .queued
  else if value = "delivering" then some .delivering
  else if value = "retry_scheduled" then some .retryScheduled
  else if value = "delivered" then some .delivered
  else if value = "dead_letter" then some .deadLetter
  else none

theorem DeliveryStatus.parse_asStr (status : DeliveryStatus) :
    DeliveryStatus.parse status.asStr = some status := by
  cases status <;> rfl

/-! ### Rows -/

/-- A row of `webhook_deliveries`. -/
structure DeliveryRow where
  deliveryId : String
  eventId : String
  eventType : String
  endpointUrl : String
  endpointOrigin : String
  payloadSnapshot : Bytes
  payloadSha256 : String
  queueName : String
  status : DeliveryStatus
  availableAt : Timestamptz
  leaseExpiresAt : Option Timestamptz
  attempts : ℤ
  maxAttempts : ℤ
  replayCount : ℤ
  createdAt : Timestamptz
  updatedAt : Timestamptz
  deriving DecidableEq

/-- A row of `webhook_delivery_attempts`. -/
structure AttemptRow where
  deliveryId : String
  replayCount : ℤ
  attempt : ℤ
  outcome : String
  httpStatus : Option ℤ
  responseSha256 : Option String
  occurredAt : Timestamptz
  deriving DecidableEq

/-- The primary key of `webhook_delivery_attempts`. -/
def AttemptRow.key (a : AttemptRow) : String × ℤ × ℤ := (a.deliveryId, a.replayCount, a.attempt)

/-- Cycle and attempt number. -/
def DeliveryRow.number (row : DeliveryRow) : ℤ × ℤ := (row.replayCount, row.attempts)

/-- Cycle and attempt number of a receipt. -/
def AttemptRow.number (a : AttemptRow) : ℤ × ℤ := (a.replayCount, a.attempt)

theorem AttemptRow.key_eq (a : AttemptRow) : a.key = (a.deliveryId, a.number) := rfl

/-- The columns an `UPDATE` assigns. -/
structure Assignment where
  status : DeliveryStatus
  availableAt : Timestamptz
  leaseExpiresAt : Option Timestamptz
  attempts : ℤ
  replayCount : ℤ
  updatedAt : Timestamptz

/-- The values a row has now. A `SET` clause names the ones it changes. -/
def DeliveryRow.current (row : DeliveryRow) : Assignment where
  status := row.status
  availableAt := row.availableAt
  leaseExpiresAt := row.leaseExpiresAt
  attempts := row.attempts
  replayCount := row.replayCount
  updatedAt := row.updatedAt

/-- `UPDATE ... SET`. -/
def DeliveryRow.assign (row : DeliveryRow) (a : Assignment) : DeliveryRow :=
  { row with
    status := a.status
    availableAt := a.availableAt
    leaseExpiresAt := a.leaseExpiresAt
    attempts := a.attempts
    replayCount := a.replayCount
    updatedAt := a.updatedAt }

section Assign

variable (row : DeliveryRow) (a : Assignment)

@[simp] theorem DeliveryRow.assign_deliveryId : (row.assign a).deliveryId = row.deliveryId := rfl
@[simp] theorem DeliveryRow.assign_eventId : (row.assign a).eventId = row.eventId := rfl
@[simp] theorem DeliveryRow.assign_queueName : (row.assign a).queueName = row.queueName := rfl
@[simp] theorem DeliveryRow.assign_maxAttempts : (row.assign a).maxAttempts = row.maxAttempts := rfl
@[simp] theorem DeliveryRow.assign_status : (row.assign a).status = a.status := rfl
@[simp] theorem DeliveryRow.assign_attempts : (row.assign a).attempts = a.attempts := rfl
@[simp] theorem DeliveryRow.assign_replayCount : (row.assign a).replayCount = a.replayCount := rfl
@[simp] theorem DeliveryRow.assign_leaseExpiresAt :
    (row.assign a).leaseExpiresAt = a.leaseExpiresAt := rfl
@[simp] theorem DeliveryRow.assign_availableAt : (row.assign a).availableAt = a.availableAt := rfl

end Assign

/-! ### Constraints -/

/-- The first `CHECK` a delivery row fails. -/
def DeliveryRow.violation (row : DeliveryRow) : Option String :=
  if ¬(0 ≤ row.attempts ∧ row.attempts ≤ row.maxAttempts
      ∧ 1 ≤ row.maxAttempts ∧ row.maxAttempts ≤ 100) then
    some "webhook_delivery_attempts_valid"
  else if ¬(row.status = .delivering ↔ row.leaseExpiresAt.isSome) then
    some "webhook_delivery_lease_valid"
  else if ¬(0 ≤ row.replayCount ∧ row.replayCount ≤ 1000000) then
    some "webhook_delivery_replay_valid"
  else none

/-- The first `CHECK` a receipt fails. -/
def AttemptRow.violation (a : AttemptRow) : Option String :=
  if ¬(1 ≤ a.attempt ∧ a.attempt ≤ 100) then
    some "webhook_attempt_number_valid"
  else if ¬(∀ s ∈ a.httpStatus, 100 ≤ s ∧ s ≤ 599) then
    some "webhook_attempt_status_valid"
  else none

theorem DeliveryRow.violation_eq_none_iff {row : DeliveryRow} :
    row.violation = none ↔
      (0 ≤ row.attempts ∧ row.attempts ≤ row.maxAttempts
        ∧ 1 ≤ row.maxAttempts ∧ row.maxAttempts ≤ 100)
      ∧ (row.status = .delivering ↔ row.leaseExpiresAt.isSome)
      ∧ 0 ≤ row.replayCount ∧ row.replayCount ≤ 1000000 := by
  unfold DeliveryRow.violation
  split
  · simp_all
  split
  · simp_all
  split
  · simp_all
  · simp_all

theorem AttemptRow.violation_eq_none_iff {a : AttemptRow} :
    a.violation = none ↔
      (1 ≤ a.attempt ∧ a.attempt ≤ 100) ∧ ∀ s ∈ a.httpStatus, 100 ≤ s ∧ s ≤ 599 := by
  unfold AttemptRow.violation
  split
  · simp_all
  split
  · simp_all
  · simp_all

/-- Both tables, in insertion order, under the constraints of the migration. -/
@[ext] structure Db where
  deliveries : List DeliveryRow
  attempts : List AttemptRow
  /-- `delivery_id text PRIMARY KEY` -/
  deliveries_pkey : (deliveries.map DeliveryRow.deliveryId).Nodup
  /-- `event_id text UNIQUE` -/
  deliveries_event_id_key : (deliveries.map DeliveryRow.eventId).Nodup
  deliveries_check : ∀ row ∈ deliveries, row.violation = none
  /-- `PRIMARY KEY (delivery_id, replay_count, attempt)` -/
  attempts_pkey : (attempts.map AttemptRow.key).Nodup
  /-- `REFERENCES webhook_deliveries(delivery_id)` -/
  attempts_fkey : ∀ a ∈ attempts, a.deliveryId ∈ deliveries.map DeliveryRow.deliveryId
  attempts_check : ∀ a ∈ attempts, a.violation = none

/-- A freshly installed schema. -/
def Db.empty : Db where
  deliveries := []
  attempts := []
  deliveries_pkey := List.nodup_nil
  deliveries_event_id_key := List.nodup_nil
  deliveries_check := by simp
  attempts_pkey := List.nodup_nil
  attempts_fkey := by simp
  attempts_check := by simp

/-- The row of a delivery. -/
def Db.delivery (db : Db) (deliveryId : String) : Option DeliveryRow :=
  KeyedTable.lookup DeliveryRow.deliveryId deliveryId db.deliveries

/-- The receipts of a delivery, in the order they were committed. -/
def Db.receipts (db : Db) (deliveryId : String) : List AttemptRow :=
  db.attempts.filter fun a => a.deliveryId = deliveryId

/-- The receipt of one attempt. -/
def Db.receipt (db : Db) (deliveryId : String) (replayCount attempt : ℤ) : Option AttemptRow :=
  KeyedTable.lookup AttemptRow.key (deliveryId, replayCount, attempt) db.attempts

theorem Db.delivery_eq_some_iff {db : Db} {id : String} {row : DeliveryRow} :
    db.delivery id = some row ↔ row ∈ db.deliveries ∧ row.deliveryId = id :=
  KeyedTable.lookup_eq_some_iff db.deliveries_pkey

theorem Db.delivery_of_mem {db : Db} {row : DeliveryRow} (h : row ∈ db.deliveries) :
    db.delivery row.deliveryId = some row :=
  KeyedTable.lookup_of_mem db.deliveries_pkey h

theorem Db.delivery_eq_none_iff {db : Db} {id : String} :
    db.delivery id = none ↔ id ∉ db.deliveries.map DeliveryRow.deliveryId :=
  KeyedTable.lookup_eq_none_iff

theorem Db.receipt_eq_some_iff {db : Db} {id : String} {r n : ℤ} {a : AttemptRow} :
    db.receipt id r n = some a ↔ a ∈ db.attempts ∧ a.key = (id, r, n) :=
  KeyedTable.lookup_eq_some_iff db.attempts_pkey

theorem Db.receipt_eq_none_iff {db : Db} {id : String} {r n : ℤ} :
    db.receipt id r n = none ↔ (id, r, n) ∉ db.attempts.map AttemptRow.key :=
  KeyedTable.lookup_eq_none_iff

theorem Db.mem_receipts {db : Db} {id : String} {a : AttemptRow} :
    a ∈ db.receipts id ↔ a ∈ db.attempts ∧ a.deliveryId = id := by
  simp [Db.receipts]

/-- The foreign key, read from the receipts' side. -/
theorem Db.receipts_eq_nil_of_delivery_eq_none {db : Db} {id : String}
    (h : db.delivery id = none) : db.receipts id = [] := by
  rw [List.eq_nil_iff_forall_not_mem]
  intro a ha
  obtain ⟨hmem, rfl⟩ := Db.mem_receipts.mp ha
  exact Db.delivery_eq_none_iff.mp h (db.attempts_fkey a hmem)

end OutboundWebhook
