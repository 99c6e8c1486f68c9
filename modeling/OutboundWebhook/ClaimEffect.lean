import OutboundWebhook.Reference

/-!
# Everything a claim changes

One statement reads one snapshot, updates the deliveries twice and inserts receipts. `ClaimEffect`
is what a reader of the queue may rely on: which rows are retired, which row is claimed, which
receipts are new, and that nothing else changes. It names the values a row gets, not the statement
that sets them.

## Any state, any arguments

The effect needs no more of the tables than that a delivering row has started an attempt
(`Db.Started`), which every claim keeps. So it also holds of every claim in a sequence of claims at
one timestamp, whatever rows are locked for each.

## Main results

* `claimDue_effect` — one claim
* `claimsAt_spec` — a sequence of claims at one timestamp
* `claim_effect`
-/

namespace OutboundWebhook

variable {db : Db}

/-- A delivering row of the queue whose lease is over. -/
def DeliveryRow.Lapsed (t : Timestamptz) (queueName : String) (row : DeliveryRow) : Prop :=
  row.queueName = queueName ∧ row.status = .delivering ∧
    ∃ lease, row.leaseExpiresAt = some lease ∧ lease ≤ t

/-- **The effect of one claim.** -/
structure ClaimEffect (t : Timestamptz) (queueName : String) (leaseSeconds : ℤ) (db db' : Db)
    (result : Option DeliveryRecord) (retired : List DeliveryRow) (claimed : Option DeliveryRow)
    (receipts : List AttemptRow) : Prop where
  /-- The retired rows had no attempt left. -/
  retired_mem : ∀ row ∈ retired, row ∈ db.deliveries ∧ row.Lapsed t queueName ∧
    row.maxAttempts ≤ row.attempts
  retired_nodup : retired.Nodup
  retired_length : retired.length ≤ 64
  /-- The claimed row was waiting, or its lease was over. -/
  claimed_mem : ∀ row, claimed = some row → row ∈ db.deliveries ∧ row.queueName = queueName ∧
    row ∉ retired ∧ (row.isWaiting t ∨ row.Lapsed t queueName)
  /-- It is the row returned. -/
  returned : result = claimed.map fun row => decodeDelivery
    { row with
      status := .delivering
      attempts := row.attempts + 1
      leaseExpiresAt := some (t + seconds leaseSeconds)
      updatedAt := t }
  /-- No other row changes. -/
  deliveries_eq : db'.deliveries = db.deliveries.map fun row =>
    if row ∈ retired then
      { row with status := .deadLetter, leaseExpiresAt := none, updatedAt := t }
    else if claimed = some row then
      { row with
        status := .delivering
        attempts := row.attempts + 1
        leaseExpiresAt := some (t + seconds leaseSeconds)
        updatedAt := t }
    else row
  /-- No receipt changes, and the new ones are of attempts that had none. -/
  attempts_eq : db'.attempts = db.attempts ++ receipts
  receipts_new : ∀ a ∈ receipts, ∃ row ∈ db.deliveries, row.Lapsed t queueName ∧
    a = leaseExpiredReceipt t row ∧
    db.receipt row.deliveryId row.replayCount row.attempts = none
  receipts_nodup : (receipts.map AttemptRow.key).Nodup
  receipts_length : receipts.length ≤ 64
  /-- The attempt that is closed ends with a receipt. -/
  closed : ∀ row, row ∈ retired ∨ claimed = some row ∧ row.Lapsed t queueName →
    ∃ a, db'.receipt row.deliveryId row.replayCount row.attempts = some a

theorem DeliveryRow.isExpired_iff_lapsed {t : Timestamptz} {queueName : String}
    {row : DeliveryRow} : row.isExpired t queueName ↔ row.Lapsed t queueName := by
  rw [DeliveryRow.isExpired_iff, DeliveryRow.leaseExpired_iff, DeliveryRow.Lapsed]

section OneClaim

variable {t : Timestamptz} {locked : List String} {queueName : String} {leaseSeconds : ℤ}

/-- The batch. -/
theorem Db.lapsed_of_mem_expired {row : DeliveryRow} (h : row ∈ db.expired t locked queueName) :
    row ∈ db.deliveries ∧ row.Lapsed t queueName := by
  obtain ⟨hrow, hexpired, -⟩ := Db.mem_expired h
  exact ⟨hrow, DeliveryRow.isExpired_iff_lapsed.mp hexpired⟩

theorem Db.length_expired_le : (db.expired t locked queueName).length ≤ 64 := by
  rw [Db.expired, Selection.length_firstBy]
  exact min_le_left _ _

/-- A lapsed candidate is of the batch. -/
theorem Db.mem_expired_of_candidate {row : DeliveryRow}
    (h : db.candidate t locked queueName = some row) (hlapsed : row.Lapsed t queueName) :
    row ∈ db.expired t locked queueName := by
  obtain ⟨-, -, -, hwaiting | hexpired, -⟩ := Db.candidate_eq_some h
  · have hstatus := (DeliveryRow.isWaiting_iff.mp hwaiting).1
    rw [hlapsed.2.1] at hstatus
    exact hstatus.elim (fun h => nomatch h) fun h => nomatch h
  · exact hexpired

/-- **One claim.** -/
theorem claimDue_effect (t : Timestamptz) (locked : List String) (queueName : String)
    (hstarted : db.Started) (hlease : FitsI32 leaseSeconds) :
    ∃ result db' retired claimed receipts,
      claimDue t locked queueName leaseSeconds db = .ok (result, db') ∧ db'.Started ∧
        ClaimEffect t queueName leaseSeconds db db' result retired claimed receipts := by
  obtain ⟨db', hok, hd, ha⟩ := claimDue_eq_ok t locked queueName hlease hstarted
  have hkeys := @Db.nodup_key_expired db t locked queueName
  obtain ⟨receipts, hnew, hsub, hfree⟩ :=
    KeyedTable.exists_insertAll_eq_append (l := db.attempts) hkeys
  have hretired : ∀ {row}, row ∈ (db.expired t locked queueName).filter
      (fun row => row.maxAttempts ≤ row.attempts) ↔
        row ∈ db.expired t locked queueName ∧ row.maxAttempts ≤ row.attempts := by
    intro row
    rw [List.mem_filter, decide_eq_true_eq]
  refine ⟨_, db', (db.expired t locked queueName).filter fun row =>
    row.maxAttempts ≤ row.attempts, db.candidate t locked queueName, receipts, hok,
    Db.Started.afterClaim hd hstarted, ?_⟩
  constructor
  case retired_mem =>
    intro row hrow
    obtain ⟨hexpired, hlast⟩ := hretired.mp hrow
    obtain ⟨hmem, hlapsed⟩ := Db.lapsed_of_mem_expired hexpired
    exact ⟨hmem, hlapsed, hlast⟩
  case retired_nodup => exact Db.nodup_expired.of_map.filter _
  case retired_length => exact (List.length_filter_le _ _).trans Db.length_expired_le
  case claimed_mem =>
    intro row hc
    obtain ⟨hrow, hqueue, hleft, hwhy, -⟩ := Db.candidate_eq_some hc
    refine ⟨hrow, hqueue, ?_, hwhy.imp_right fun h => (Db.lapsed_of_mem_expired h).2⟩
    intro hmem
    exact absurd (hretired.mp hmem).2 (not_le.mpr hleft)
  case returned => rfl
  case deliveries_eq =>
    rw [hd]
    refine List.map_congr_left ?_
    intro row hrow
    rcases Db.afterClaim_cases t locked queueName leaseSeconds hrow with
      ⟨hc, heq⟩ | ⟨-, hexpired, hlast, heq⟩ | ⟨hc, hnot, heq⟩
    · have hleft := (Db.candidate_eq_some hc).2.2.1
      have hnot : row ∉ (db.expired t locked queueName).filter
          fun row => row.maxAttempts ≤ row.attempts :=
        fun h => absurd (hretired.mp h).2 (not_le.mpr hleft)
      rw [heq, if_neg hnot, if_pos hc]
      rfl
    · rw [heq, if_pos (hretired.mpr ⟨hexpired, hlast⟩)]
      rfl
    · rw [heq, if_neg (fun h => hnot (hretired.mp h)), if_neg hc]
  case attempts_eq => exact ha.trans hnew
  case receipts_new =>
    intro a hmem
    obtain ⟨row, hexpired, rfl⟩ := List.mem_map.mp (hsub.subset hmem)
    obtain ⟨hrow, hlapsed⟩ := Db.lapsed_of_mem_expired hexpired
    exact ⟨row, hrow, hlapsed, rfl, Db.receipt_eq_none_iff.mpr (hfree _ hmem)⟩
  case receipts_nodup => exact (hsub.map _).nodup Db.nodup_key_expired
  case receipts_length =>
    refine hsub.length_le.trans ?_
    rw [List.length_map]
    exact Db.length_expired_le
  case closed =>
    intro row hrow
    have hexpired : row ∈ db.expired t locked queueName := by
      rcases hrow with hrow | ⟨hc, hlapsed⟩
      · exact (hretired.mp hrow).1
      · exact Db.mem_expired_of_candidate hc hlapsed
    have hkey : (leaseExpiredReceipt t row).key ∈ db'.attempts.map AttemptRow.key := by
      rw [ha]
      exact KeyedTable.key_mem_insertAll (List.mem_map_of_mem hexpired)
    obtain ⟨a, hmem, hkey⟩ := List.mem_map.mp hkey
    exact ⟨a, Db.receipt_eq_some_iff.mpr ⟨hmem, hkey⟩⟩

/-- A lease that does not fit its column is a panic, and nothing is changed. -/
theorem claimDue_of_not_fits (db : Db) (t : Timestamptz) (locked : List String) (queueName : String)
    (hlease : ¬FitsI32 leaseSeconds) :
    ∃ message, transact (claimDue t locked queueName leaseSeconds) db
      = (.error (.panic message), db) := by
  rw [claimDue, i32_of_not_fits hlease]
  exact ⟨_, rfl⟩

end OneClaim

/-! ### Claims at one timestamp -/

/-- The tables after a sequence of claims of a queue at one timestamp, each with the rows that are
locked then and its own lease. -/
def claimsAt (t : Timestamptz) (queueName : String) : List (List String × ℤ) → Db → Db
  | [], db => db
  | (locked, leaseSeconds) :: calls, db =>
    claimsAt t queueName calls (transact (claimDue t locked queueName leaseSeconds) db).2

/-- **A sequence of claims.** Receipts are only added, and no attempt gets a second one. -/
theorem claimsAt_spec (t : Timestamptz) (queueName : String) (calls : List (List String × ℤ))
    (hstarted : db.Started) :
    ∃ receipts, (claimsAt t queueName calls db).attempts = db.attempts ++ receipts ∧
      ((claimsAt t queueName calls db).attempts.map AttemptRow.key).Nodup := by
  induction calls generalizing db with
  | nil => exact ⟨[], (List.append_nil _).symm, db.attempts_pkey⟩
  | cons call calls ih =>
    obtain ⟨locked, leaseSeconds⟩ := call
    rw [claimsAt]
    by_cases hlease : FitsI32 leaseSeconds
    · obtain ⟨result, db', retired, claimed, receipts, hok, hstarted', heffect⟩ :=
        claimDue_effect t locked queueName hstarted hlease
      obtain ⟨later, hlater, hnodup⟩ := ih hstarted'
      rw [transact_of_eq_ok hok]
      refine ⟨receipts ++ later, ?_, hnodup⟩
      rw [hlater, heffect.attempts_eq, List.append_assoc]
    · obtain ⟨message, hpanic⟩ := claimDue_of_not_fits db t locked queueName hlease
      rw [hpanic]
      exact ih hstarted

/-- **The effect of a claim**, in every reachable state and for all arguments. A lease outside the
32-bit integers is refused before anything is changed; otherwise the claim commits, and changes
what `ClaimEffect` names and nothing else. However often it is repeated at the same timestamp,
earlier receipts stay and no attempt has two. -/
theorem claim_effect (P : Platform) {s : Sys P} (hs : (system P).Reachable s) (t : Timestamptz)
    (locked : List String) (queueName : String) (leaseSeconds : ℤ) :
    (¬FitsI32 leaseSeconds → ∃ message,
      transact (claimDue t locked queueName leaseSeconds) s.db = (.error (.panic message), s.db)) ∧
    (FitsI32 leaseSeconds → ∃ result db' retired claimed receipts,
      transact (claimDue t locked queueName leaseSeconds) s.db = (.ok result, db') ∧
        ClaimEffect t queueName leaseSeconds s.db db' result retired claimed receipts) ∧
    ∀ calls, ∃ receipts,
      (claimsAt t queueName ((locked, leaseSeconds) :: calls) s.db).attempts
        = (transact (claimDue t locked queueName leaseSeconds) s.db).2.attempts ++ receipts ∧
      ((claimsAt t queueName ((locked, leaseSeconds) :: calls) s.db).attempts.map
        AttemptRow.key).Nodup := by
  have hstarted : s.db.Started := (reachable_inv hs).started
  refine ⟨claimDue_of_not_fits s.db t locked queueName, ?_, ?_⟩
  · intro hlease
    obtain ⟨result, db', retired, claimed, receipts, hok, -, heffect⟩ :=
      claimDue_effect t locked queueName hstarted hlease
    exact ⟨result, db', retired, claimed, receipts, transact_of_eq_ok hok, heffect⟩
  · intro calls
    rw [claimsAt]
    by_cases hlease : FitsI32 leaseSeconds
    · obtain ⟨result, db', retired, claimed, receipts, hok, hstarted', -⟩ :=
        claimDue_effect t locked queueName hstarted hlease
      rw [transact_of_eq_ok hok]
      exact claimsAt_spec t queueName calls hstarted'
    · obtain ⟨message, hpanic⟩ := claimDue_of_not_fits s.db t locked queueName hlease
      rw [hpanic]
      exact claimsAt_spec t queueName calls hstarted

/-- Both orders of the deployment are being delivered, and both leases are over. -/
theorem claim_effect_two_lapsed :
    ∃ s, (system reference).Reachable s ∧
      s.db.deliveries = [firstOrder.row 1000000, secondOrder.row 2000000] ∧
      ∃ result db' retired claimed receipts,
        transact (claimDue 33000000 [] "webhooks" 30) s.db = (.ok result, db') ∧
          ClaimEffect 33000000 "webhooks" 30 s.db db' result retired claimed receipts := by
  obtain ⟨s, hs, hd, -, -, -⟩ := exists_two_claimed
  obtain ⟨-, heffect, -⟩ := claim_effect reference hs 33000000 [] "webhooks" 30
  exact ⟨s, hs, hd, heffect (by decide)⟩

end OutboundWebhook
