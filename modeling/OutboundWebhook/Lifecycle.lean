import OutboundWebhook.Storage
import OutboundWebhook.Foundations.Numbering

/-!
# The life of one delivery

Seen from one delivery, the four transactions are six moves on its row and its receipts
(`Life.Step`): its lease expires and is noted, or it is retired, claimed, claimed again after its
lease expired, given an outcome, or replayed. This module says what a delivery's life looks like
without saying which statement makes which move; `Refinement` connects the two.

## The invariant

`Life.Sound` has two halves. The first says which attempt numbers and leases go with which status.
The second says that the receipts are a gap-free record of the closed attempts: all of them up to
the current one when the row is at rest, and up to the current one or the one before while it is
being delivered, because a worker that ended in a runtime failure or whose lease has expired
leaves a receipt behind before its attempt number moves.

## Main results

* `Life.Step.sound` — every move keeps a sound life sound
* `Life.Step.receipts_prefix` — receipts are only ever added at the end
* `Life.Step.progress` — cycle and attempt number never go back
* `Life.Step.mayBecome` — the status moves along the documented edges
-/

namespace OutboundWebhook

/-! ### What never changes -/

/-- The columns written once. -/
structure Content where
  deliveryId : String
  eventId : String
  eventType : String
  endpointUrl : String
  endpointOrigin : String
  payloadSnapshot : Bytes
  payloadSha256 : String
  queueName : String
  maxAttempts : ℤ
  deriving DecidableEq

def DeliveryRow.content (row : DeliveryRow) : Content where
  deliveryId := row.deliveryId
  eventId := row.eventId
  eventType := row.eventType
  endpointUrl := row.endpointUrl
  endpointOrigin := row.endpointOrigin
  payloadSnapshot := row.payloadSnapshot
  payloadSha256 := row.payloadSha256
  queueName := row.queueName
  maxAttempts := row.maxAttempts

def DeliveryRecord.content (record : DeliveryRecord) : Content where
  deliveryId := record.deliveryId
  eventId := record.eventId
  eventType := record.eventType
  endpointUrl := record.endpointUrl
  endpointOrigin := record.endpointOrigin
  payloadSnapshot := record.payloadSnapshot
  payloadSha256 := record.payloadSha256
  queueName := record.queueName
  maxAttempts := record.maxAttempts

@[simp] theorem DeliveryRow.assign_content (row : DeliveryRow) (a : Assignment) :
    (row.assign a).content = row.content := rfl

@[simp] theorem decodeDelivery_content (row : DeliveryRow) :
    (decodeDelivery row).content = row.content := rfl

/-- The documented edges of the status. -/
def DeliveryStatus.mayBecome : DeliveryStatus → DeliveryStatus → Bool
  | .queued, .delivering => true
  | .retryScheduled, .delivering => true
  | .delivering, .delivering => true
  | .delivering, .retryScheduled => true
  | .delivering, .delivered => true
  | .delivering, .deadLetter => true
  | .deadLetter, .queued => true
  | _, _ => false

/-! ### Lives and moves -/

/-- A row and its receipts, in the order they were committed. -/
structure Life where
  row : DeliveryRow
  receipts : List AttemptRow

/-- The receipts after one for the current attempt was inserted, or found there. -/
def Life.receipted (l : Life) (a : AttemptRow) : List AttemptRow :=
  KeyedTable.insertNew AttemptRow.number a l.receipts

inductive Life.Step : Life → Life → Prop
  /-- Maintenance notes that the lease has expired. -/
  | expire {l : Life} (now : Timestamptz) (hstatus : l.row.status = .delivering) :
      Step l ⟨l.row, l.receipted (leaseExpiredReceipt now l.row)⟩
  /-- Maintenance retires a delivery that has no attempt left. -/
  | retire {l : Life} (now : Timestamptz) (hstatus : l.row.status = .delivering)
      (hlast : l.row.maxAttempts ≤ l.row.attempts) :
      Step l ⟨l.row.assign (retireAssignment now l.row),
        l.receipted (leaseExpiredReceipt now l.row)⟩
  /-- A waiting delivery is claimed. -/
  | claim {l : Life} (now : Timestamptz) (leaseSeconds : ℤ)
      (hstatus : l.row.status = .queued ∨ l.row.status = .retryScheduled)
      (hleft : l.row.attempts < l.row.maxAttempts) :
      Step l ⟨l.row.assign (claimAssignment now leaseSeconds l.row), l.receipts⟩
  /-- A delivery whose lease has expired is claimed. -/
  | reclaim {l : Life} (now : Timestamptz) (leaseSeconds : ℤ)
      (hstatus : l.row.status = .delivering) (hleft : l.row.attempts < l.row.maxAttempts) :
      Step l ⟨l.row.assign (claimAssignment now leaseSeconds l.row),
        l.receipted (leaseExpiredReceipt now l.row)⟩
  /-- A worker records the outcome of the current attempt. -/
  | outcome {l : Life} (now : Timestamptz) (receipt : AttemptRow) (status : DeliveryStatus)
      (nextAvailableAt : Option OffsetDateTime) (hnumber : receipt.number = l.row.number)
      (hstatus : l.row.status = .delivering) (hqueued : status ≠ .queued)
      (hretry : status = .retryScheduled → l.row.attempts < l.row.maxAttempts) :
      Step l ⟨l.row.assign (outcomeAssignment now status nextAvailableAt l.row),
        l.receipted receipt⟩
  /-- An operator replays a dead-lettered delivery. -/
  | replay {l : Life} (now : Timestamptz) (hstatus : l.row.status = .deadLetter)
      (hcycles : l.row.replayCount < 1000000) :
      Step l ⟨l.row.assign (replayAssignment now l.row), l.receipts⟩

/-! ### Sound lives -/

/-- Attempt number and lease fit the status. -/
structure DeliveryRow.Sound (row : DeliveryRow) : Prop where
  lease : row.status = .delivering ↔ row.leaseExpiresAt.isSome
  queued : row.status = .queued → row.attempts = 0
  retry : row.status = .retryScheduled → 1 ≤ row.attempts ∧ row.attempts < row.maxAttempts
  started : row.status = .delivering ∨ row.status = .delivered ∨ row.status = .deadLetter →
    1 ≤ row.attempts ∧ row.attempts ≤ row.maxAttempts
  maxAttempts : 1 ≤ row.maxAttempts ∧ row.maxAttempts ≤ 100
  replayCount : 0 ≤ row.replayCount ∧ row.replayCount ≤ 1000000

/-- `closed` attempts of the current cycle are over. -/
def DeliveryRow.Closed (row : DeliveryRow) (closed : ℤ) : Prop :=
  closed = row.attempts ∨ row.status = .delivering ∧ closed = row.attempts - 1

structure Life.Sound (l : Life) : Prop where
  row : l.row.Sound
  ledger : ∃ closed, l.row.Closed closed ∧
    Numbered l.row.maxAttempts l.row.replayCount closed (l.receipts.map AttemptRow.number)

theorem DeliveryRow.Sound.attempts_nonneg {row : DeliveryRow} (h : row.Sound) :
    0 ≤ row.attempts := by
  cases hs : row.status with
  | queued => rw [h.queued hs]
  | delivering => have := h.started (.inl hs); omega
  | retryScheduled => have := h.retry hs; omega
  | delivered => have := h.started (.inr (.inl hs)); omega
  | deadLetter => have := h.started (.inr (.inr hs)); omega

theorem DeliveryRow.Sound.attempts_le {row : DeliveryRow} (h : row.Sound) :
    row.attempts ≤ row.maxAttempts := by
  have hmax := h.maxAttempts
  cases hs : row.status with
  | queued => rw [h.queued hs]; omega
  | delivering => exact (h.started (.inl hs)).2
  | retryScheduled => have := h.retry hs; omega
  | delivered => exact (h.started (.inr (.inl hs))).2
  | deadLetter => exact (h.started (.inr (.inr hs))).2

/-- No attempt left behind: a waiting row can be claimed. -/
theorem DeliveryRow.Sound.attempts_lt {row : DeliveryRow} (h : row.Sound)
    (hs : row.status = .queued ∨ row.status = .retryScheduled) :
    row.attempts < row.maxAttempts := by
  rcases hs with hs | hs
  · have := h.queued hs
    have := h.maxAttempts
    omega
  · exact (h.retry hs).2

/-- A sound row meets every `CHECK`. -/
theorem DeliveryRow.Sound.violation_eq_none {row : DeliveryRow} (h : row.Sound) :
    row.violation = none :=
  DeliveryRow.violation_eq_none_iff.mpr
    ⟨⟨h.attempts_nonneg, h.attempts_le, h.maxAttempts⟩, h.lease, h.replayCount⟩

/-- **Closing the current attempt.** Once the receipt is in, the record reaches the current
attempt, whether the receipt was new or not. -/
theorem Life.Sound.receipted {l : Life} (h : l.Sound) {a : AttemptRow}
    (hnumber : a.number = l.row.number) (hstatus : l.row.status = .delivering) :
    Numbered l.row.maxAttempts l.row.replayCount l.row.attempts
      ((l.receipted a).map AttemptRow.number) := by
  obtain ⟨closed, hclosed, hledger⟩ := h.ledger
  have hbusy := h.row.started (.inl hstatus)
  unfold Life.receipted
  rcases hclosed with rfl | ⟨-, rfl⟩
  · -- the receipt is there already
    have hmem : a.number ∈ l.receipts.map AttemptRow.number := by
      rw [hnumber]
      exact (hledger.current _).mpr ⟨hbusy.1, le_rfl⟩
    rw [KeyedTable.insertNew_of_mem hmem]
    exact hledger
  · -- the receipt is the next one
    have hnotMem : a.number ∉ l.receipts.map AttemptRow.number := by
      rw [hnumber]
      intro hmem
      have := (hledger.current _).mp hmem
      omega
    have hpush := hledger.push h.row.replayCount.1 (by omega)
    rw [Int.sub_add_cancel] at hpush
    rw [KeyedTable.insertNew_of_notMem hnotMem, List.map_append, List.map_singleton, hnumber]
    exact hpush

/-! ### What a move keeps -/

/-- **Every move keeps a sound life sound.** -/
theorem Life.Step.sound {l l' : Life} (h : Step l l') (hl : l.Sound) : l'.Sound := by
  have hmax := hl.row.maxAttempts
  have hcycle := hl.row.replayCount
  cases h with
  | expire now hstatus =>
    exact ⟨hl.row, _, .inl rfl, hl.receipted rfl hstatus⟩
  | retire now hstatus hlast =>
    refine ⟨?_, _, .inl rfl, hl.receipted rfl hstatus⟩
    have hbusy := hl.row.started (.inl hstatus)
    exact ⟨by simp [retireAssignment], by simp [retireAssignment], by simp [retireAssignment],
      fun _ => hbusy, hmax, hcycle⟩
  | claim now leaseSeconds hstatus hleft =>
    have hnonneg := hl.row.attempts_nonneg
    obtain ⟨closed, hclosed, hledger⟩ := hl.ledger
    have hrest : closed = l.row.attempts := by
      rcases hclosed with hclosed | ⟨hdelivering, -⟩
      · exact hclosed
      · rcases hstatus with hs | hs <;> simp [hs] at hdelivering
    refine ⟨?_, closed, .inr ⟨rfl, by simp [claimAssignment, hrest]⟩, hledger⟩
    refine ⟨by simp [claimAssignment], by simp [claimAssignment], by simp [claimAssignment],
      ?_, hmax, hcycle⟩
    intro _
    simp only [DeliveryRow.assign_attempts, DeliveryRow.assign_maxAttempts, claimAssignment]
    omega
  | reclaim now leaseSeconds hstatus hleft =>
    have hnonneg := hl.row.attempts_nonneg
    refine ⟨?_, l.row.attempts, .inr ⟨rfl, by simp [claimAssignment]⟩, hl.receipted rfl hstatus⟩
    refine ⟨by simp [claimAssignment], by simp [claimAssignment], by simp [claimAssignment],
      ?_, hmax, hcycle⟩
    intro _
    simp only [DeliveryRow.assign_attempts, DeliveryRow.assign_maxAttempts, claimAssignment]
    omega
  | outcome now receipt status nextAvailableAt hnumber hstatus hqueued hretry =>
    have hbusy := hl.row.started (.inl hstatus)
    have hlease := hl.row.lease.mp hstatus
    refine ⟨?_, l.row.attempts, .inl rfl, hl.receipted hnumber hstatus⟩
    refine ⟨?_, fun h => absurd h hqueued, fun h => ⟨hbusy.1, hretry h⟩, fun _ => hbusy, hmax,
      hcycle⟩
    by_cases hdelivering : status = .delivering
    · simp [outcomeAssignment, hdelivering, hlease]
    · simp [outcomeAssignment, hdelivering]
  | replay now hstatus hcycles =>
    have hdead := hl.row.started (.inr (.inr hstatus))
    obtain ⟨closed, hclosed, hledger⟩ := hl.ledger
    have hrest : closed = l.row.attempts := by
      rcases hclosed with hclosed | ⟨hdelivering, -⟩
      · exact hclosed
      · simp [hstatus] at hdelivering
    subst hrest
    refine ⟨?_, 0, .inl rfl, hledger.nextCycle hdead.1 hdead.2⟩
    refine ⟨by simp [replayAssignment], by simp [replayAssignment], by simp [replayAssignment],
      by simp [replayAssignment], hmax, ?_⟩
    simp only [DeliveryRow.assign_replayCount, replayAssignment]
    omega

theorem Life.Step.content {l l' : Life} (h : Step l l') : l'.row.content = l.row.content := by
  cases h <;> rfl

theorem Life.receipts_prefix_receipted (l : Life) (a : AttemptRow) :
    l.receipts <+: l.receipted a := by
  unfold Life.receipted KeyedTable.insertNew
  split
  · exact List.prefix_rfl
  · exact List.prefix_append _ _

/-- **Receipts are only ever added at the end.** -/
theorem Life.Step.receipts_prefix {l l' : Life} (h : Step l l') : l.receipts <+: l'.receipts := by
  cases h with
  | claim => exact List.prefix_rfl
  | replay => exact List.prefix_rfl
  | _ => exact l.receipts_prefix_receipted _

/-- **Cycle and attempt number never go back.** -/
theorem Life.Step.progress {l l' : Life} (h : Step l l') :
    l'.row.number = l.row.number ∨ Before l.row.number l'.row.number := by
  cases h with
  | claim => exact .inr (.inr ⟨rfl, show l.row.attempts < l.row.attempts + 1 by omega⟩)
  | reclaim => exact .inr (.inr ⟨rfl, show l.row.attempts < l.row.attempts + 1 by omega⟩)
  | replay => exact .inr (.inl (show l.row.replayCount < l.row.replayCount + 1 by omega))
  | _ => exact .inl rfl

/-- **The status moves along the documented edges.** -/
theorem Life.Step.mayBecome {l l' : Life} (h : Step l l') :
    l.row.status.mayBecome l'.row.status := by
  cases h with
  | expire now hstatus => simp [hstatus, DeliveryStatus.mayBecome]
  | retire now hstatus => simp [hstatus, retireAssignment, DeliveryStatus.mayBecome]
  | claim now leaseSeconds hstatus =>
    rcases hstatus with hstatus | hstatus <;>
      simp [hstatus, claimAssignment, DeliveryStatus.mayBecome]
  | reclaim now leaseSeconds hstatus => simp [hstatus, claimAssignment, DeliveryStatus.mayBecome]
  | outcome now receipt status nextAvailableAt hnumber hstatus hqueued =>
    cases status <;> simp_all [outcomeAssignment, DeliveryStatus.mayBecome]
  | replay now hstatus => simp [hstatus, replayAssignment, DeliveryStatus.mayBecome]

end OutboundWebhook
