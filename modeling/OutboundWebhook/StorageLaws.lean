import OutboundWebhook.Lifecycle

/-!
# What each storage operation does

One specification for each transaction, under the assumptions the service guarantees. Later
modules use these and never unfold an operation again.

Each specification describes the tables after the transaction as lists, and `Db.life` reads the
life of one delivery off them: an update of deliveries is seen through `delivery_of_map`, an
inserted receipt through `receipts_of_insertNew`.

## Main results

* `insertOrGet_of_free`, `insertOrGet_of_event`, `insertOrGet_of_collision`
* `claimDue_eq_ok` — the claim succeeds, and what the batch and the candidate become
* `recordOutcome_eq_ok`, `recordOutcome_ok_inv` — an outcome commits exactly when its fence holds
* `beginReplay_eq_ok`
-/

namespace OutboundWebhook

variable {db db' : Db}

/-! ### Reading one delivery -/

/-- The life of a delivery, if there is one. -/
def Db.life (db : Db) (id : String) : Option Life :=
  (db.delivery id).map fun row => ⟨row, db.receipts id⟩

theorem Db.life_eq_some_iff {id : String} {l : Life} :
    db.life id = some l ↔ db.delivery id = some l.row ∧ db.receipts id = l.receipts := by
  rw [Db.life, Option.map_eq_some_iff]
  constructor
  · rintro ⟨row, hrow, rfl⟩
    exact ⟨hrow, rfl⟩
  · rintro ⟨hrow, hreceipts⟩
    exact ⟨l.row, hrow, by rw [hreceipts]⟩

theorem Db.life_eq_none_iff {id : String} : db.life id = none ↔ db.delivery id = none := by
  simp [Db.life]

theorem Db.life_of_delivery {id : String} {row : DeliveryRow} (h : db.delivery id = some row) :
    db.life id = some ⟨row, db.receipts id⟩ := by
  rw [Db.life, h]
  rfl

theorem Db.deliveryId_of_life {id : String} {l : Life} (h : db.life id = some l) :
    l.row.deliveryId = id :=
  (Db.delivery_eq_some_iff.mp (Db.life_eq_some_iff.mp h).1).2

theorem Db.mem_of_life {id : String} {l : Life} (h : db.life id = some l) :
    l.row ∈ db.deliveries :=
  (Db.delivery_eq_some_iff.mp (Db.life_eq_some_iff.mp h).1).1

theorem Db.life_of_mem {row : DeliveryRow} (h : row ∈ db.deliveries) :
    db.life row.deliveryId = some ⟨row, db.receipts row.deliveryId⟩ :=
  Db.life_of_delivery (Db.delivery_of_mem h)

/-- The row that was stored last. -/
theorem Db.mem_of_last {rows : List DeliveryRow} {row : DeliveryRow}
    (h : db.deliveries = rows ++ [row]) : row ∈ db.deliveries := by
  rw [h]
  exact List.mem_append_right _ (List.mem_singleton.mpr rfl)

theorem Db.mem_of_singleton {row : DeliveryRow} (h : db.deliveries = [row]) :
    row ∈ db.deliveries :=
  @Db.mem_of_last db [] row h

theorem Db.eq_of_deliveryId_eq {row row' : DeliveryRow} (h : row ∈ db.deliveries)
    (h' : row' ∈ db.deliveries) (hid : row.deliveryId = row'.deliveryId) : row = row' :=
  KeyedTable.eq_of_key_eq db.deliveries_pkey h h' hid

/-- An update that keeps every id. -/
theorem Db.delivery_of_map {f : DeliveryRow → DeliveryRow}
    (hd : db'.deliveries = db.deliveries.map f) (hf : ∀ row, (f row).deliveryId = row.deliveryId)
    (id : String) : db'.delivery id = (db.delivery id).map f := by
  rw [Db.delivery, hd]
  exact KeyedTable.lookup_map hf

theorem Db.receipts_of_eq (ha : db'.attempts = db.attempts) (id : String) :
    db'.receipts id = db.receipts id := by
  rw [Db.receipts, ha, Db.receipts]

/-- A batch of receipts. -/
theorem Db.receipts_of_insertAll {as : List AttemptRow}
    (ha : db'.attempts = KeyedTable.insertAll AttemptRow.key as db.attempts) (id : String) :
    db'.receipts id
      = KeyedTable.insertAll AttemptRow.number (as.filter fun a => a.deliveryId = id)
          (db.receipts id) := by
  rw [Db.receipts, ha]
  exact KeyedTable.filter_insertAll

theorem Db.receipts_of_insertNew_self {a : AttemptRow}
    (ha : db'.attempts = KeyedTable.insertNew AttemptRow.key a db.attempts) :
    db'.receipts a.deliveryId
      = KeyedTable.insertNew AttemptRow.number a (db.receipts a.deliveryId) := by
  rw [Db.receipts, ha]
  exact KeyedTable.filter_insertNew_self

theorem Db.receipts_of_insertNew_of_ne {a : AttemptRow} {id : String}
    (ha : db'.attempts = KeyedTable.insertNew AttemptRow.key a db.attempts)
    (hid : a.deliveryId ≠ id) : db'.receipts id = db.receipts id := by
  rw [Db.receipts, ha]
  exact KeyedTable.filter_insertNew_of_ne hid

/-! ### `insert_or_get` -/

theorem i32_bind {β : Type} {n : ℤ} (h : FitsI32 n) (expectation : String)
    (f : ℤ → Transaction β) : (i32 n expectation >>= f) = f n := by
  rw [i32_of_fits h, pure_bind]

theorem optionI32_bind {β : Type} {n : Option ℤ} (h : ∀ m ∈ n, FitsI32 m) (expectation : String)
    (f : Option ℤ → Transaction β) : (optionI32 n expectation >>= f) = f n := by
  rw [optionI32_of_fits h, pure_bind]

section InsertOrGet

variable {now : Timestamptz} {delivery : NewDelivery}

theorem NewDelivery.toRow_sound (delivery : NewDelivery) (now : Timestamptz)
    (hmax : 1 ≤ delivery.maxAttempts ∧ delivery.maxAttempts ≤ 100) :
    (delivery.toRow now).Sound :=
  ⟨by simp [NewDelivery.toRow], by simp [NewDelivery.toRow], by simp [NewDelivery.toRow],
    by simp [NewDelivery.toRow], hmax, by simp [NewDelivery.toRow]⟩

/-- Neither the id nor the event is known. -/
theorem insertOrGet_of_free (now : Timestamptz)
    (hmax : 1 ≤ delivery.maxAttempts ∧ delivery.maxAttempts ≤ 100)
    (hid : delivery.deliveryId ∉ db.deliveries.map DeliveryRow.deliveryId)
    (hevent : delivery.eventId ∉ db.deliveries.map DeliveryRow.eventId) :
    ∃ db', insertOrGet now delivery db = .ok (.created (decodeDelivery (delivery.toRow now)), db') ∧
      db'.deliveries = db.deliveries ++ [delivery.toRow now] ∧ db'.attempts = db.attempts := by
  have hfits : FitsI32 delivery.maxAttempts := ⟨by omega, by omega⟩
  obtain ⟨db', hins, hd, ha⟩ := insertDelivery_of_free "insert delivery"
    (delivery.toRow_sound now hmax).violation_eq_none hid hevent
  refine ⟨db', ?_, hd, ha⟩
  rw [insertOrGet, i32_bind hfits, bind_of_eq_ok hins]
  rfl

/-- One delivery through an insert. -/
theorem Db.life_of_insert {row : DeliveryRow} (hd : db'.deliveries = db.deliveries ++ [row])
    (ha : db'.attempts = db.attempts)
    (hnew : row.deliveryId ∉ db.deliveries.map DeliveryRow.deliveryId) (id : String) :
    db'.life id = if row.deliveryId = id then some ⟨row, []⟩ else db.life id := by
  by_cases hid : row.deliveryId = id
  · subst hid
    have hrow : db'.delivery row.deliveryId = some row := by
      rw [Db.delivery, hd]
      exact KeyedTable.lookup_append_singleton_self hnew
    have hnone := Db.receipts_eq_nil_of_delivery_eq_none (Db.delivery_eq_none_iff.mpr hnew)
    rw [if_pos rfl, Db.life_of_delivery hrow, Db.receipts_of_eq ha, hnone]
  · have hrow : db'.delivery id = db.delivery id := by
      rw [Db.delivery, hd]
      exact KeyedTable.lookup_append_singleton_of_ne hid
    rw [if_neg hid, Db.life, hrow, Db.receipts_of_eq ha]
    rfl

/-- The event is known: the row is compared, and nothing is written. -/
theorem insertOrGet_of_event {row : DeliveryRow}
    (hmax : 1 ≤ delivery.maxAttempts ∧ delivery.maxAttempts ≤ 100)
    (hevent : KeyedTable.lookup DeliveryRow.eventId delivery.eventId db.deliveries = some row) :
    insertOrGet now delivery db = .ok (if delivery.same (decodeDelivery row) then
      .existing (decodeDelivery row) else .conflict, db) := by
  have hfits : FitsI32 delivery.maxAttempts := ⟨by omega, by omega⟩
  have hmem : delivery.eventId ∈ db.deliveries.map DeliveryRow.eventId := by
    rw [← KeyedTable.key_of_lookup hevent]
    exact List.mem_map_of_mem (KeyedTable.mem_of_lookup hevent)
  have hins := insertDelivery_of_conflict "insert delivery"
    (delivery.toRow_sound now hmax).violation_eq_none (.inr hmem)
  rw [insertOrGet, i32_bind hfits, bind_of_eq_ok hins, if_neg zero_ne_one, bind_of_eq_ok get_apply,
    hevent]
  rfl

/-- The event is unknown, but its id is taken. -/
theorem insertOrGet_of_collision (hmax : 1 ≤ delivery.maxAttempts ∧ delivery.maxAttempts ≤ 100)
    (hid : delivery.deliveryId ∈ db.deliveries.map DeliveryRow.deliveryId)
    (hevent : delivery.eventId ∉ db.deliveries.map DeliveryRow.eventId) :
    insertOrGet now delivery db = .error (.error (.invariant "delivery identity collision")) := by
  have hfits : FitsI32 delivery.maxAttempts := ⟨by omega, by omega⟩
  have hins := insertDelivery_of_conflict "insert delivery"
    (delivery.toRow_sound now hmax).violation_eq_none (.inl hid)
  rw [insertOrGet, i32_bind hfits, bind_of_eq_ok hins, if_neg zero_ne_one, bind_of_eq_ok get_apply,
    KeyedTable.lookup_eq_none_iff.mpr hevent]
  rfl

end InsertOrGet

/-! ### `claim_due` -/

theorem DeliveryRow.leaseExpired_iff {now : Timestamptz} {row : DeliveryRow} :
    row.leaseExpired now ↔ ∃ lease, row.leaseExpiresAt = some lease ∧ lease ≤ now := by
  rw [DeliveryRow.leaseExpired]
  cases row.leaseExpiresAt <;> simp

theorem DeliveryRow.isExpired_iff {now : Timestamptz} {queueName : String} {row : DeliveryRow} :
    row.isExpired now queueName ↔
      row.queueName = queueName ∧ row.status = .delivering ∧ row.leaseExpired now := by
  simp [DeliveryRow.isExpired, and_assoc]

theorem DeliveryRow.isWaiting_iff {now : Timestamptz} {row : DeliveryRow} :
    row.isWaiting now ↔
      (row.status = .queued ∨ row.status = .retryScheduled) ∧ row.availableAt ≤ now := by
  simp [DeliveryRow.isWaiting]

section ClaimDue

variable {now : Timestamptz} {locked : List String} {queueName : String} {leaseSeconds : ℤ}

theorem Db.mem_expired {row : DeliveryRow} (h : row ∈ db.expired now locked queueName) :
    row ∈ db.deliveries ∧ row.isExpired now queueName ∧ row.deliveryId ∉ locked := by
  have hmem := Selection.mem_of_mem_firstBy h
  rw [List.mem_filter] at hmem
  simpa using hmem

theorem Db.nodup_expired :
    ((db.expired now locked queueName).map DeliveryRow.deliveryId).Nodup :=
  Selection.nodup_map_firstBy ((List.filter_sublist.map _).nodup db.deliveries_pkey)

/-- The receipts of the batch have distinct keys. -/
theorem Db.nodup_key_expired :
    (((db.expired now locked queueName).map (leaseExpiredReceipt now)).map
      AttemptRow.key).Nodup := by
  refine List.Nodup.of_map Prod.fst ?_
  rw [List.map_map, List.map_map]
  exact Db.nodup_expired

theorem Db.isCandidate_iff {row : DeliveryRow} (hrow : row ∈ db.deliveries) :
    row.isCandidate now queueName (db.expired now locked queueName) ↔
      row.queueName = queueName ∧ row.attempts < row.maxAttempts ∧
        (row.isWaiting now ∨ row ∈ db.expired now locked queueName) := by
  have hcontains : ((db.expired now locked queueName).map DeliveryRow.deliveryId).contains
      row.deliveryId ↔ row ∈ db.expired now locked queueName := by
    rw [List.contains_iff_mem, List.mem_map]
    constructor
    · rintro ⟨e, he, hid⟩
      rwa [← Db.eq_of_deliveryId_eq (Db.mem_expired he).1 hrow hid]
    · intro h
      exact ⟨row, h, rfl⟩
  simp only [DeliveryRow.isCandidate, Bool.and_eq_true, beq_iff_eq, decide_eq_true_eq,
    Bool.or_eq_true, hcontains, and_assoc]
  constructor
  · rintro ⟨hqueue, hleft, hwaiting | ⟨-, -, hexpired⟩⟩
    · exact ⟨hqueue, hleft, .inl hwaiting⟩
    · exact ⟨hqueue, hleft, .inr hexpired⟩
  · rintro ⟨hqueue, hleft, hwaiting | hexpired⟩
    · exact ⟨hqueue, hleft, .inl hwaiting⟩
    · obtain ⟨-, hstatus, hlease⟩ := DeliveryRow.isExpired_iff.mp (Db.mem_expired hexpired).2.1
      exact ⟨hqueue, hleft, .inr ⟨hstatus, hlease, hexpired⟩⟩

/-- Rows with the same place in the order of availability are the same row. -/
theorem Db.eq_of_dueOrder_eq {row row' : DeliveryRow} (h : row ∈ db.deliveries)
    (h' : row' ∈ db.deliveries) (hkey : dueOrder row = dueOrder row') : row = row' := by
  simp only [dueOrder, EmbeddingLike.apply_eq_iff_eq, Prod.mk.injEq] at hkey
  exact Db.eq_of_deliveryId_eq h h' hkey.2.2

/-- A row that a claim may return. -/
def Db.Claimable (db : Db) (now : Timestamptz) (locked : List String) (queueName : String)
    (row : DeliveryRow) : Prop :=
  row ∈ db.deliveries ∧ row.queueName = queueName ∧ row.attempts < row.maxAttempts ∧
    (row.isWaiting now ∨ row ∈ db.expired now locked queueName) ∧ row.deliveryId ∉ locked

theorem Db.mem_candidates {row : DeliveryRow} :
    row ∈ db.deliveries.filter (fun row =>
        row.isCandidate now queueName (db.expired now locked queueName)
          && !locked.contains row.deliveryId) ↔
      db.Claimable now locked queueName row := by
  rw [List.mem_filter, Bool.and_eq_true, Db.Claimable]
  constructor
  · rintro ⟨hrow, hcandidate, hlocked⟩
    obtain ⟨hqueue, hleft, hdue⟩ := (Db.isCandidate_iff hrow).mp hcandidate
    exact ⟨hrow, hqueue, hleft, hdue, by simpa using hlocked⟩
  · rintro ⟨hrow, hqueue, hleft, hdue, hlocked⟩
    exact ⟨hrow, (Db.isCandidate_iff hrow).mpr ⟨hqueue, hleft, hdue⟩, by simpa using hlocked⟩

/-- **The candidate is the first claimable row** in the order of availability. -/
theorem Db.candidate_eq_some_iff {row : DeliveryRow} :
    db.candidate now locked queueName = some row ↔
      db.Claimable now locked queueName row ∧
        ∀ other, db.Claimable now locked queueName other → dueOrder row ≤ dueOrder other := by
  rw [Db.candidate, Selection.leastBy_eq_some_iff, Db.mem_candidates]
  · simp only [Db.mem_candidates]
  · intro a ha b hb
    exact Db.eq_of_dueOrder_eq (Db.mem_candidates.mp ha).1 (Db.mem_candidates.mp hb).1

theorem Db.candidate_eq_some {row : DeliveryRow}
    (h : db.candidate now locked queueName = some row) : db.Claimable now locked queueName row :=
  (Db.candidate_eq_some_iff.mp h).1

theorem Db.candidate_eq_none_iff :
    db.candidate now locked queueName = none ↔ ∀ row, ¬db.Claimable now locked queueName row := by
  rw [Db.candidate, Selection.leastBy_eq_none_iff, List.eq_nil_iff_forall_not_mem]
  simp only [Db.mem_candidates]

theorem Db.isRetired_iff {row : DeliveryRow} (hrow : row ∈ db.deliveries) :
    isRetired (db.expired now locked queueName) row ↔
      row ∈ db.expired now locked queueName ∧ row.maxAttempts ≤ row.attempts := by
  simp only [isRetired, List.any_eq_true, Bool.and_eq_true, beq_iff_eq, decide_eq_true_eq]
  constructor
  · rintro ⟨e, he, hid, hlast⟩
    obtain rfl := Db.eq_of_deliveryId_eq (Db.mem_expired he).1 hrow hid
    exact ⟨he, hlast⟩
  · rintro ⟨he, hlast⟩
    exact ⟨row, he, rfl, hlast⟩

/-- The outer update picks the candidate. -/
def isClaimed (candidate : Option DeliveryRow) (row : DeliveryRow) : Bool :=
  candidate.any fun c => c.deliveryId == row.deliveryId

theorem Db.isClaimed_iff {row : DeliveryRow} (hrow : row ∈ db.deliveries) :
    isClaimed (db.candidate now locked queueName) row ↔
      db.candidate now locked queueName = some row := by
  cases hc : db.candidate now locked queueName with
  | none => simp [isClaimed]
  | some c =>
    simp only [isClaimed, Option.any_some, beq_iff_eq, Option.some.injEq]
    constructor
    · exact Db.eq_of_deliveryId_eq (Db.candidate_eq_some hc).1 hrow
    · rintro rfl
      rfl

/-- A row after the two updates of a claim. -/
def Db.afterClaim (db : Db) (now : Timestamptz) (locked : List String) (queueName : String)
    (leaseSeconds : ℤ) (row : DeliveryRow) : DeliveryRow :=
  (row.updated (isRetired (db.expired now locked queueName)) (retireAssignment now)).updated
    (isClaimed (db.candidate now locked queueName)) (claimAssignment now leaseSeconds)

/-- The candidate is claimed, and it is not one of the rows that are retired. -/
theorem Db.afterClaim_of_candidate {row : DeliveryRow}
    (h : db.candidate now locked queueName = some row) :
    db.afterClaim now locked queueName leaseSeconds row
      = row.assign (claimAssignment now leaseSeconds row) := by
  obtain ⟨hrow, -, hleft, -⟩ := Db.candidate_eq_some h
  have hretired : ¬isRetired (db.expired now locked queueName) row := by
    rw [Db.isRetired_iff hrow]
    omega
  rw [Db.afterClaim, DeliveryRow.updated, DeliveryRow.updated, if_neg hretired,
    if_pos ((Db.isClaimed_iff hrow).mpr h)]

theorem isClaimed_congr {candidate : Option DeliveryRow} {row row' : DeliveryRow}
    (h : row.deliveryId = row'.deliveryId) :
    isClaimed candidate row = isClaimed candidate row' := by
  simp [isClaimed, h]

/-- An expired row without attempts left is retired. -/
theorem Db.afterClaim_of_exhausted {row : DeliveryRow}
    (h : row ∈ db.expired now locked queueName) (hlast : row.maxAttempts ≤ row.attempts) :
    db.afterClaim now locked queueName leaseSeconds row
      = row.assign (retireAssignment now row) := by
  have hrow := (Db.mem_expired h).1
  have hclaimed : ¬isClaimed (db.candidate now locked queueName) row := by
    rw [Db.isClaimed_iff hrow]
    intro hc
    obtain ⟨-, -, hleft, -⟩ := Db.candidate_eq_some hc
    omega
  rw [Db.afterClaim, DeliveryRow.updated, DeliveryRow.updated,
    if_pos ((Db.isRetired_iff hrow).mpr ⟨h, hlast⟩), if_neg]
  rwa [isClaimed_congr (row.assign_deliveryId _)]

/-- Every other row is left alone. -/
theorem Db.afterClaim_of_other {row : DeliveryRow} (hrow : row ∈ db.deliveries)
    (hexpired : row ∈ db.expired now locked queueName → row.attempts < row.maxAttempts)
    (hcandidate : db.candidate now locked queueName ≠ some row) :
    db.afterClaim now locked queueName leaseSeconds row = row := by
  have hretired : ¬isRetired (db.expired now locked queueName) row := by
    rw [Db.isRetired_iff hrow]
    rintro ⟨he, hlast⟩
    have := hexpired he
    omega
  rw [Db.afterClaim, DeliveryRow.updated, DeliveryRow.updated, if_neg hretired, if_neg]
  exact fun h => hcandidate ((Db.isClaimed_iff hrow).mp h)

/-- What a claim does to a row: it is claimed, retired or left alone. -/
theorem Db.afterClaim_cases (now : Timestamptz) (locked : List String) (queueName : String)
    (leaseSeconds : ℤ) {row : DeliveryRow} (hrow : row ∈ db.deliveries) :
    (db.candidate now locked queueName = some row ∧
      db.afterClaim now locked queueName leaseSeconds row
        = row.assign (claimAssignment now leaseSeconds row)) ∨
    (db.candidate now locked queueName ≠ some row ∧ row ∈ db.expired now locked queueName ∧
      row.maxAttempts ≤ row.attempts ∧
      db.afterClaim now locked queueName leaseSeconds row = row.assign (retireAssignment now row)) ∨
    (db.candidate now locked queueName ≠ some row ∧
      ¬(row ∈ db.expired now locked queueName ∧ row.maxAttempts ≤ row.attempts) ∧
      db.afterClaim now locked queueName leaseSeconds row = row) := by
  by_cases hc : db.candidate now locked queueName = some row
  · exact .inl ⟨hc, Db.afterClaim_of_candidate hc⟩
  · by_cases hretired : row ∈ db.expired now locked queueName ∧ row.maxAttempts ≤ row.attempts
    · exact .inr (.inl ⟨hc, hretired.1, hretired.2,
        Db.afterClaim_of_exhausted hretired.1 hretired.2⟩)
    · refine .inr (.inr ⟨hc, hretired, Db.afterClaim_of_other hrow ?_ hc⟩)
      intro he
      exact not_le.mp fun hlast => hretired ⟨he, hlast⟩

/-- Tables whose delivering rows have started. -/
def Db.Started (db : Db) : Prop :=
  ∀ row ∈ db.deliveries, row.status = .delivering → 1 ≤ row.attempts

/-- A delivering row has started, and stays so. -/
theorem Db.Started.afterClaim
    (hd : db'.deliveries = db.deliveries.map (db.afterClaim now locked queueName leaseSeconds))
    (h : db.Started) : db'.Started := by
  intro row' hrow' hstatus
  rw [hd] at hrow'
  obtain ⟨row, hrow, rfl⟩ := List.mem_map.mp hrow'
  rcases Db.afterClaim_cases now locked queueName leaseSeconds hrow with
    ⟨-, heq⟩ | ⟨-, -, -, heq⟩ | ⟨-, -, heq⟩
  · have hcheck := (DeliveryRow.violation_eq_none_iff.mp (db.deliveries_check row hrow)).1
    rw [heq]
    show 1 ≤ row.attempts + 1
    omega
  · rw [heq] at hstatus
    exact nomatch hstatus
  · rw [heq] at hstatus ⊢
    exact h row hrow hstatus

/-- **A claim succeeds** on tables whose delivering rows have started. -/
theorem claimDue_eq_ok (now : Timestamptz) (locked : List String) (queueName : String)
    (hlease : FitsI32 leaseSeconds)
    (hstarted : ∀ row ∈ db.deliveries, row.status = .delivering → 1 ≤ row.attempts) :
    ∃ db', claimDue now locked queueName leaseSeconds db
        = .ok ((db.candidate now locked queueName).map fun row =>
            decodeDelivery (row.assign (claimAssignment now leaseSeconds row)), db') ∧
      db'.deliveries = db.deliveries.map (db.afterClaim now locked queueName leaseSeconds) ∧
      db'.attempts = KeyedTable.insertAll AttemptRow.key
        ((db.expired now locked queueName).map (leaseExpiredReceipt now)) db.attempts := by
  -- the receipts
  have hreceipts : ∀ a ∈ (db.expired now locked queueName).map (leaseExpiredReceipt now),
      a.violation = none ∧ a.deliveryId ∈ db.deliveries.map DeliveryRow.deliveryId := by
    intro a ha
    obtain ⟨row, hrow, rfl⟩ := List.mem_map.mp ha
    obtain ⟨hmem, hexpired, -⟩ := Db.mem_expired hrow
    have h1 := hstarted row hmem (DeliveryRow.isExpired_iff.mp hexpired).2.1
    have hcheck := (DeliveryRow.violation_eq_none_iff.mp (db.deliveries_check row hmem)).1
    refine ⟨AttemptRow.violation_eq_none_iff.mpr ⟨?_, by simp [leaseExpiredReceipt]⟩,
      List.mem_map_of_mem hmem⟩
    simp only [leaseExpiredReceipt]
    omega
  obtain ⟨db₁, h₁, hd₁, ha₁⟩ := insertAttempts_eq_ok "claim due delivery"
    (fun a ha => (hreceipts a ha).1) (fun a ha => (hreceipts a ha).2)
  -- the rows that are retired
  have hretire : ∀ row ∈ db₁.deliveries, isRetired (db.expired now locked queueName) row →
      (row.assign (retireAssignment now row)).violation = none := by
    intro row hrow _
    have hcheck := DeliveryRow.violation_eq_none_iff.mp (db₁.deliveries_check row hrow)
    exact DeliveryRow.violation_eq_none_iff.mpr
      ⟨hcheck.1, by simp [retireAssignment], hcheck.2.2⟩
  obtain ⟨db₂, h₂, hd₂, ha₂⟩ := updateDeliveries_eq_ok "claim due delivery" hretire
  -- the row that is claimed
  have hclaim : ∀ row ∈ db₂.deliveries, isClaimed (db.candidate now locked queueName) row →
      (row.assign (claimAssignment now leaseSeconds row)).violation = none := by
    intro row hrow hclaimed
    rw [hd₂, hd₁] at hrow
    obtain ⟨row₀, hrow₀, rfl⟩ := List.mem_map.mp hrow
    rw [isClaimed_congr (DeliveryRow.updated_deliveryId _ _ row₀), Db.isClaimed_iff hrow₀]
      at hclaimed
    obtain ⟨-, -, hleft, -⟩ := Db.candidate_eq_some hclaimed
    have hretired : ¬isRetired (db.expired now locked queueName) row₀ := by
      rw [Db.isRetired_iff hrow₀]
      omega
    rw [DeliveryRow.updated, if_neg hretired]
    have hcheck := DeliveryRow.violation_eq_none_iff.mp (db.deliveries_check row₀ hrow₀)
    refine DeliveryRow.violation_eq_none_iff.mpr ⟨?_, by simp [claimAssignment], hcheck.2.2⟩
    simp only [DeliveryRow.assign_attempts, DeliveryRow.assign_maxAttempts, claimAssignment]
    omega
  obtain ⟨db₃, h₃, hd₃, ha₃⟩ := updateDeliveries_eq_ok "claim due delivery" hclaim
  refine ⟨db₃, ?_, ?_, ?_⟩
  · rw [claimDue, i32_bind hlease, bind_of_eq_ok get_apply, bind_of_eq_ok h₁, bind_of_eq_ok h₂]
    exact bind_of_eq_ok h₃ _
  · rw [hd₃, hd₂, hd₁, List.map_map]
    rfl
  · rw [ha₃, ha₂, ha₁]

theorem Db.afterClaim_deliveryId (row : DeliveryRow) :
    (db.afterClaim now locked queueName leaseSeconds row).deliveryId = row.deliveryId := by
  rw [Db.afterClaim, DeliveryRow.updated_deliveryId, DeliveryRow.updated_deliveryId]

/-- **One delivery through a claim.** -/
theorem Db.life_afterClaim {id : String} {l : Life} (hl : db.life id = some l)
    (hd : db'.deliveries = db.deliveries.map (db.afterClaim now locked queueName leaseSeconds))
    (ha : db'.attempts = KeyedTable.insertAll AttemptRow.key
      ((db.expired now locked queueName).map (leaseExpiredReceipt now)) db.attempts) :
    db'.life id = some
      ⟨db.afterClaim now locked queueName leaseSeconds l.row,
        if l.row ∈ db.expired now locked queueName then
          l.receipted (leaseExpiredReceipt now l.row)
        else l.receipts⟩ := by
  obtain ⟨hrow, hreceipts⟩ := Db.life_eq_some_iff.mp hl
  have hid := Db.deliveryId_of_life hl
  have hmine : ((db.expired now locked queueName).map (leaseExpiredReceipt now)).filter
      (fun a => a.deliveryId = id)
      = ((db.expired now locked queueName).filter fun row => row.deliveryId = id).map
        (leaseExpiredReceipt now) := List.filter_map
  have hdelivery : db'.delivery id
      = some (db.afterClaim now locked queueName leaseSeconds l.row) := by
    rw [Db.delivery_of_map hd Db.afterClaim_deliveryId, hrow]
    rfl
  refine Db.life_eq_some_iff.mpr ⟨hdelivery, ?_⟩
  rw [Db.receipts_of_insertAll ha, hmine, hreceipts]
  by_cases hexpired : l.row ∈ db.expired now locked queueName
  · rw [if_pos hexpired, ← hid, KeyedTable.filter_key_of_mem Db.nodup_expired hexpired]
    rfl
  · have hnone : id ∉ (db.expired now locked queueName).map DeliveryRow.deliveryId := by
      intro hmem
      obtain ⟨e, he, heid⟩ := List.mem_map.mp hmem
      have heq := Db.eq_of_deliveryId_eq (Db.mem_expired he).1 (Db.mem_of_life hl)
        (heid.trans hid.symm)
      exact hexpired (heq ▸ he)
    rw [if_neg hexpired, KeyedTable.filter_key_of_notMem hnone]
    rfl

end ClaimDue

/-! ### `record_outcome` -/

section RecordOutcome

variable {now : Timestamptz} {deliveryId : String} {replayCount attempt : ℤ}
  {receipt : DeliveryReceipt} {status : DeliveryStatus} {nextAvailableAt : Option OffsetDateTime}

theorem DeliveryRow.isFenced_iff {row : DeliveryRow} :
    row.isFenced now deliveryId replayCount attempt ↔
      row.deliveryId = deliveryId ∧ row.number = (replayCount, attempt) ∧
        row.status = .delivering ∧ ∃ lease, row.leaseExpiresAt = some lease ∧ now < lease := by
  rw [DeliveryRow.isFenced, DeliveryRow.number, Prod.mk.injEq]
  cases row.leaseExpiresAt <;> simp [and_assoc]

/-- The row a fence holds for. -/
theorem Db.filter_isFenced :
    db.deliveries.filter (DeliveryRow.isFenced now deliveryId replayCount attempt)
      = ((db.delivery deliveryId).filter
          (DeliveryRow.isFenced now deliveryId replayCount attempt)).toList :=
  KeyedTable.filter_eq_toList db.deliveries_pkey
    fun _ _ hfenced => (DeliveryRow.isFenced_iff.mp hfenced).1

/-- The integers of the call fit their columns. -/
def FitsColumns (replayCount : ℤ) (receipt : DeliveryReceipt) : Prop :=
  FitsI32 replayCount ∧ FitsI32 receipt.attempt ∧ ∀ s ∈ receipt.httpStatus, FitsI32 s

/-- A receipt the table accepts fits its columns. -/
theorem fitsColumns_of_check (hcycle : 0 ≤ replayCount ∧ replayCount ≤ 1000000)
    (hcheck : (receipt.toRow deliveryId replayCount).violation = none) :
    FitsColumns replayCount receipt := by
  obtain ⟨hattempt, hstatus⟩ := AttemptRow.violation_eq_none_iff.mp hcheck
  have hattempt : 1 ≤ receipt.attempt ∧ receipt.attempt ≤ 100 := hattempt
  refine ⟨⟨by omega, by omega⟩, ⟨by omega, by omega⟩, ?_⟩
  intro status hmem
  have hbounds := hstatus status hmem
  exact ⟨by omega, by omega⟩

theorem recordOutcome_of_fits (hfits : FitsColumns replayCount receipt) :
    recordOutcome now deliveryId replayCount receipt status nextAvailableAt = (do
      let _ ← insertAttempt "insert delivery receipt" (receipt.toRow deliveryId replayCount)
      let updated ← updateDeliveries "update delivery outcome"
        (DeliveryRow.isFenced now deliveryId replayCount receipt.attempt)
        (outcomeAssignment now status nextAvailableAt)
      ensureUpdated updated "record fenced delivery outcome") := by
  obtain ⟨h₁, h₂, h₃⟩ := hfits
  rw [recordOutcome, i32_bind h₁, i32_bind h₂, optionI32_bind h₃]

/-- The update never violates a `CHECK`. -/
theorem outcomeAssignment_violation {row : DeliveryRow} (hcheck : row.violation = none)
    (hfenced : row.isFenced now deliveryId replayCount attempt) :
    (row.assign (outcomeAssignment now status nextAvailableAt row)).violation = none := by
  have hold := DeliveryRow.violation_eq_none_iff.mp hcheck
  have hlease := hold.2.1.mp (DeliveryRow.isFenced_iff.mp hfenced).2.2.1
  refine DeliveryRow.violation_eq_none_iff.mpr ⟨hold.1, ?_, hold.2.2⟩
  by_cases hdelivering : status = .delivering
  · simp [outcomeAssignment, hdelivering, hlease]
  · simp [outcomeAssignment, hdelivering]

/-- **An outcome commits** when the receipt is one the table accepts and the fence holds. -/
theorem recordOutcome_eq_ok (status : DeliveryStatus) (nextAvailableAt : Option OffsetDateTime)
    (hfits : FitsColumns replayCount receipt)
    (hcheck : (receipt.toRow deliveryId replayCount).violation = none) {row : DeliveryRow}
    (hrow : row ∈ db.deliveries)
    (hfenced : row.isFenced now deliveryId replayCount receipt.attempt) :
    ∃ db', recordOutcome now deliveryId replayCount receipt status nextAvailableAt db
        = .ok ((), db') ∧
      db'.deliveries = db.deliveries.map (DeliveryRow.updated
        (DeliveryRow.isFenced now deliveryId replayCount receipt.attempt)
        (outcomeAssignment now status nextAvailableAt)) ∧
      db'.attempts = KeyedTable.insertNew AttemptRow.key (receipt.toRow deliveryId replayCount)
        db.attempts := by
  have hid := (DeliveryRow.isFenced_iff.mp hfenced).1
  have hfkey : deliveryId ∈ db.deliveries.map DeliveryRow.deliveryId :=
    hid ▸ List.mem_map_of_mem hrow
  obtain ⟨n, db₁, h₁, hd₁, ha₁⟩ := insertAttempt_eq_ok "insert delivery receipt" hcheck hfkey
  have hupdate : ∀ row ∈ db₁.deliveries,
      row.isFenced now deliveryId replayCount receipt.attempt →
      (row.assign (outcomeAssignment now status nextAvailableAt row)).violation = none :=
    fun row hrow => outcomeAssignment_violation (db₁.deliveries_check row hrow)
  obtain ⟨db₂, h₂, hd₂, ha₂⟩ := updateDeliveries_eq_ok "update delivery outcome" hupdate
  have hone : (db₁.deliveries.filter
      (DeliveryRow.isFenced now deliveryId replayCount receipt.attempt)).length = 1 := by
    have hdelivery : db.delivery deliveryId = some row := hid ▸ Db.delivery_of_mem hrow
    rw [hd₁, Db.filter_isFenced, hdelivery]
    simp [Option.filter, hfenced]
  refine ⟨db₂, ?_, by rw [hd₂, hd₁], by rw [ha₂, ha₁]⟩
  rw [recordOutcome_of_fits hfits, bind_of_eq_ok h₁, bind_of_eq_ok h₂, hone]
  rfl

/-- A receipt the table refuses. -/
theorem recordOutcome_of_violation (hfits : FitsColumns replayCount receipt)
    (hcheck : (receipt.toRow deliveryId replayCount).violation ≠ none) :
    recordOutcome now deliveryId replayCount receipt status nextAvailableAt db
      = .error (.error (.database "insert delivery receipt"
          ((receipt.toRow deliveryId replayCount).violation.getD ""))) := by
  rw [recordOutcome_of_fits hfits, bind_of_eq_error (insertAttempt_of_violation hcheck)]

/-- An integer that does not fit its column. -/
theorem recordOutcome_of_not_fits (hfits : ¬FitsColumns replayCount receipt) :
    ∃ message, recordOutcome now deliveryId replayCount receipt status nextAvailableAt db
      = .error (.panic message) := by
  rw [recordOutcome]
  by_cases h₁ : FitsI32 replayCount
  · by_cases h₂ : FitsI32 receipt.attempt
    · rw [i32_bind h₁, i32_bind h₂]
      cases hstatus : receipt.httpStatus with
      | none => exact absurd ⟨h₁, h₂, by simp [hstatus]⟩ hfits
      | some s =>
        have h₃ : ¬FitsI32 s := fun h => hfits ⟨h₁, h₂, by simpa [hstatus] using h⟩
        exact ⟨_, bind_of_eq_error (optionI32_of_not_fits h₃ _) _⟩
    · rw [i32_bind h₁, i32_of_not_fits h₂]
      exact ⟨_, rfl⟩
  · rw [i32_of_not_fits h₁]
    exact ⟨_, rfl⟩

/-- Without the fence the call fails, and with the integers in range it fails with an error. -/
theorem recordOutcome_of_not_fenced
    (hfenced : ∀ row ∈ db.deliveries, ¬row.isFenced now deliveryId replayCount receipt.attempt)
    (hfits : FitsColumns replayCount receipt) :
    ∃ error, recordOutcome now deliveryId replayCount receipt status nextAvailableAt db
      = .error (.error error) := by
  rw [recordOutcome_of_fits hfits]
  rcases insertAttempt_cases "insert delivery receipt" (receipt.toRow deliveryId replayCount) db
    with ⟨source, -, h₁⟩ | ⟨n, db₁, h₁, hd₁⟩
  · exact ⟨_, bind_of_eq_error h₁ _⟩
  · have hnone : ∀ row ∈ db₁.deliveries,
        row.isFenced now deliveryId replayCount receipt.attempt = false := by
      intro row hrow
      exact Bool.eq_false_iff.mpr (hfenced row (hd₁ ▸ hrow))
    rw [bind_of_eq_ok h₁, bind_of_eq_ok (updateDeliveries_of_no_row hnone)]
    exact ⟨_, rfl⟩

/-- A constraint that makes an outcome fail is one of the receipts'. -/
theorem recordOutcome_error_inv {operation source : String}
    (h : recordOutcome now deliveryId replayCount receipt status nextAvailableAt db
      = .error (.error (.database operation source))) : source ∈ attemptConstraints := by
  have hfits : FitsColumns replayCount receipt := by
    by_contra hfits
    obtain ⟨message, herr⟩ : ∃ message, recordOutcome now deliveryId replayCount receipt status
        nextAvailableAt db = .error (.panic message) := recordOutcome_of_not_fits hfits
    rw [herr] at h
    exact nomatch h
  rw [recordOutcome_of_fits hfits] at h
  rcases insertAttempt_cases "insert delivery receipt" (receipt.toRow deliveryId replayCount) db
    with ⟨source', hmem, h₁⟩ | ⟨n, db₁, h₁, hd₁⟩
  · rw [bind_of_eq_error h₁, Except.error.injEq, Abort.error.injEq, StoreError.database.injEq] at h
    exact h.2 ▸ hmem
  · have hupdate : ∀ row ∈ db₁.deliveries,
        row.isFenced now deliveryId replayCount receipt.attempt →
        (row.assign (outcomeAssignment now status nextAvailableAt row)).violation = none :=
      fun row hrow => outcomeAssignment_violation (db₁.deliveries_check row hrow)
    obtain ⟨db₂, h₂, -, -⟩ := updateDeliveries_eq_ok "update delivery outcome" hupdate
    rw [bind_of_eq_ok h₁, bind_of_eq_ok h₂, ensureUpdated] at h
    split at h
    · exact nomatch h
    · exact nomatch h

/-- **What a committed outcome was.** -/
theorem recordOutcome_ok_inv
    (h : recordOutcome now deliveryId replayCount receipt status nextAvailableAt db
      = .ok ((), db')) :
    (receipt.toRow deliveryId replayCount).violation = none ∧
      (∃ row ∈ db.deliveries, row.isFenced now deliveryId replayCount receipt.attempt) ∧
      db'.deliveries = db.deliveries.map (DeliveryRow.updated
        (DeliveryRow.isFenced now deliveryId replayCount receipt.attempt)
        (outcomeAssignment now status nextAvailableAt)) ∧
      db'.attempts = KeyedTable.insertNew AttemptRow.key (receipt.toRow deliveryId replayCount)
        db.attempts := by
  have hfits : FitsColumns replayCount receipt := by
    by_contra hfits
    obtain ⟨message, herr⟩ : ∃ message, recordOutcome now deliveryId replayCount receipt status
        nextAvailableAt db = .error (.panic message) := recordOutcome_of_not_fits hfits
    rw [herr] at h
    exact nomatch h
  have hcheck : (receipt.toRow deliveryId replayCount).violation = none := by
    by_contra hcheck
    rw [recordOutcome_of_violation hfits hcheck] at h
    exact nomatch h
  obtain ⟨row, hrow, hfenced⟩ : ∃ row ∈ db.deliveries,
      row.isFenced now deliveryId replayCount receipt.attempt := by
    by_contra hfenced
    obtain ⟨error, herr⟩ : ∃ error, recordOutcome now deliveryId replayCount receipt status
        nextAvailableAt db = .error (.error error) :=
      recordOutcome_of_not_fenced (fun row hrow hf => hfenced ⟨row, hrow, hf⟩) hfits
    rw [herr] at h
    exact nomatch h
  obtain ⟨db₁, h₁, hd₁, ha₁⟩ := recordOutcome_eq_ok status nextAvailableAt hfits hcheck hrow hfenced
  rw [h₁, Except.ok.injEq, Prod.mk.injEq] at h
  obtain ⟨-, rfl⟩ := h
  exact ⟨hcheck, ⟨row, hrow, hfenced⟩, hd₁, ha₁⟩

/-- **One delivery through a committed outcome.** -/
theorem Db.life_afterOutcome {id : String} {l : Life} (hl : db.life id = some l)
    (hfenced : ∃ row ∈ db.deliveries, row.isFenced now deliveryId replayCount attempt)
    {a : AttemptRow} (haid : a.deliveryId = deliveryId)
    (hd : db'.deliveries = db.deliveries.map (DeliveryRow.updated
      (DeliveryRow.isFenced now deliveryId replayCount attempt)
      (outcomeAssignment now status nextAvailableAt)))
    (ha : db'.attempts = KeyedTable.insertNew AttemptRow.key a db.attempts) :
    db'.life id = some (if deliveryId = id then
      ⟨l.row.assign (outcomeAssignment now status nextAvailableAt l.row), l.receipted a⟩
      else l) := by
  obtain ⟨hrow, hreceipts⟩ := Db.life_eq_some_iff.mp hl
  have hdelivery := Db.delivery_of_map hd (DeliveryRow.updated_deliveryId _ _) id
  rw [hrow, Option.map_some] at hdelivery
  have hmem := Db.mem_of_life hl
  have hid := Db.deliveryId_of_life hl
  by_cases hmine : deliveryId = id
  · obtain ⟨row, hrow', hrowFenced⟩ := hfenced
    have hsame : row = l.row := Db.eq_of_deliveryId_eq hrow' hmem
      (((DeliveryRow.isFenced_iff.mp hrowFenced).1.trans hmine).trans hid.symm)
    rw [DeliveryRow.updated, if_pos (hsame ▸ hrowFenced)] at hdelivery
    refine Db.life_eq_some_iff.mpr ?_
    rw [if_pos hmine]
    refine ⟨hdelivery, ?_⟩
    rw [← hmine, ← haid, Db.receipts_of_insertNew_self ha, haid, hmine, hreceipts]
    rfl
  · have hother : ¬l.row.isFenced now deliveryId replayCount attempt := by
      intro h
      exact hmine ((DeliveryRow.isFenced_iff.mp h).1.symm.trans hid)
    rw [DeliveryRow.updated, if_neg hother] at hdelivery
    refine Db.life_eq_some_iff.mpr ?_
    rw [if_neg hmine]
    exact ⟨hdelivery, by rw [Db.receipts_of_insertNew_of_ne ha (haid ▸ hmine), hreceipts]⟩

end RecordOutcome

/-! ### `begin_replay` -/

section BeginReplay

variable {now : Timestamptz} {deliveryId : String}

theorem DeliveryRow.isReplayable_iff {row : DeliveryRow} :
    row.isReplayable deliveryId ↔
      row.deliveryId = deliveryId ∧ row.status = .deadLetter ∧ row.replayCount < 1000000 := by
  simp [DeliveryRow.isReplayable, and_assoc]

/-- **A replay never fails.** It changes the delivery if it is dead-lettered and has a cycle
left. -/
theorem beginReplay_eq_ok (now : Timestamptz) (deliveryId : String) (db : Db) :
    ∃ db', beginReplay now deliveryId db
        = .ok (((db.delivery deliveryId).filter (DeliveryRow.isReplayable deliveryId)).map
            fun row => decodeDelivery (row.assign (replayAssignment now row)), db') ∧
      db'.deliveries = db.deliveries.map (DeliveryRow.updated
        (DeliveryRow.isReplayable deliveryId) (replayAssignment now)) ∧
      db'.attempts = db.attempts := by
  have hupdate : ∀ row ∈ db.deliveries, row.isReplayable deliveryId →
      (row.assign (replayAssignment now row)).violation = none := by
    intro row hrow hreplayable
    have hold := DeliveryRow.violation_eq_none_iff.mp (db.deliveries_check row hrow)
    have hcycles := (DeliveryRow.isReplayable_iff.mp hreplayable).2.2
    refine DeliveryRow.violation_eq_none_iff.mpr ⟨?_, by simp [replayAssignment], ?_⟩
    · simp only [DeliveryRow.assign_attempts, DeliveryRow.assign_maxAttempts, replayAssignment]
      omega
    · simp only [DeliveryRow.assign_replayCount, replayAssignment]
      omega
  obtain ⟨db₁, h₁, hd₁, ha₁⟩ := updateDeliveries_eq_ok "begin dead-letter replay" hupdate
  refine ⟨db₁, ?_, hd₁, ha₁⟩
  rw [beginReplay, bind_of_eq_ok get_apply, bind_of_eq_ok h₁]
  rfl

/-- A refused replay changes nothing. -/
theorem beginReplay_of_not_replayable (now : Timestamptz)
    (h : (db.delivery deliveryId).filter (DeliveryRow.isReplayable deliveryId) = none) :
    beginReplay now deliveryId db = .ok (none, db) := by
  have hnone : ∀ row ∈ db.deliveries, row.isReplayable deliveryId = false := by
    intro row hrow
    by_contra hreplayable
    rw [Bool.not_eq_false] at hreplayable
    have hdelivery := Db.delivery_of_mem hrow
    rw [(DeliveryRow.isReplayable_iff.mp hreplayable).1] at hdelivery
    rw [hdelivery, Option.filter_some, if_pos hreplayable] at h
    cases h
  rw [beginReplay, bind_of_eq_ok get_apply, bind_of_eq_ok (updateDeliveries_of_no_row hnone), h]
  rfl

/-- One delivery through a replay. -/
theorem Db.life_afterReplay {id : String} {l : Life} (hl : db.life id = some l)
    (hd : db'.deliveries = db.deliveries.map (DeliveryRow.updated
      (DeliveryRow.isReplayable deliveryId) (replayAssignment now)))
    (ha : db'.attempts = db.attempts) :
    db'.life id = some (if l.row.isReplayable deliveryId then
      ⟨l.row.assign (replayAssignment now l.row), l.receipts⟩ else l) := by
  obtain ⟨hrow, hreceipts⟩ := Db.life_eq_some_iff.mp hl
  have hdelivery := Db.delivery_of_map hd (DeliveryRow.updated_deliveryId _ _) id
  rw [hrow, Option.map_some, DeliveryRow.updated] at hdelivery
  refine Db.life_eq_some_iff.mpr ?_
  rw [Db.receipts_of_eq ha, hreceipts, hdelivery]
  split <;> exact ⟨rfl, rfl⟩

end BeginReplay

end OutboundWebhook
