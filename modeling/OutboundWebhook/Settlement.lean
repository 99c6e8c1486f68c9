import OutboundWebhook.Foundations.Ranking
import OutboundWebhook.Budget
import OutboundWebhook.Queue
import Mathlib.Data.Finset.Dedup
import Mathlib.Data.Finset.Order

/-!
# Every queue settles

A delivery is settled when it is delivered or dead-lettered. `Db.weight` weighs what is not: each
unsettled delivery of a queue counts the attempts it has left, and one more for its end. No
transaction makes a queue heavier, but for a new event and a replay. A claim that finds a row due
makes it lighter by one, whatever becomes of the request it is made for.

## Patience

A claim is patient when the time of every unsettled delivery of the queue has come. Any operator
who waits long enough is patient, because leases and delays are bounded. As many patient claims as
the queue was heavy settle all of it, with whatever other steps in between: late workers, other
queues, inspections, workers that stop.

The claim must find the rows unlocked. One that skips them all does nothing.

## Main results

* `queue_settles` — the bound, and that such claims are always possible
-/

namespace OutboundWebhook

variable {P : Platform} {db db' : Db} {queueName : String}

/-- What is still to be done for a delivery: the attempts that are left, and its end. -/
def DeliveryRow.load (row : DeliveryRow) : ℕ :=
  if row.Settled then 0 else (row.maxAttempts - row.attempts).toNat + 1

/-- The load of the rows of one queue. -/
def DeliveryRow.weight (queueName : String) (row : DeliveryRow) : ℕ :=
  if row.queueName = queueName then row.load else 0

/-- What is still to be done for the queue. -/
def Db.weight (db : Db) (queueName : String) : ℕ :=
  (db.deliveries.map (DeliveryRow.weight queueName)).sum

theorem DeliveryRow.load_of_settled {row : DeliveryRow} (h : row.Settled) : row.load = 0 := if_pos h

theorem DeliveryRow.load_of_not_settled {row : DeliveryRow} (h : ¬row.Settled) :
    row.load = (row.maxAttempts - row.attempts).toNat + 1 :=
  if_neg h

theorem DeliveryRow.settled_of_load_eq_zero {row : DeliveryRow} (h : row.load = 0) :
    row.Settled := by
  by_contra hsettled
  rw [DeliveryRow.load_of_not_settled hsettled] at h
  omega

/-- A queue that weighs nothing is settled. -/
theorem Db.settled_of_weight_eq_zero (h : db.weight queueName = 0) {row : DeliveryRow}
    (hrow : row ∈ db.deliveries) (hqueue : row.queueName = queueName) : row.Settled := by
  have hzero := List.sum_eq_zero_iff.mp h _ (List.mem_map_of_mem hrow)
  rw [DeliveryRow.weight, if_pos hqueue] at hzero
  exact DeliveryRow.settled_of_load_eq_zero hzero

/-! ### What a move does to the load -/

/-- A claim lightens the row by one. -/
theorem DeliveryRow.load_claimed {row : DeliveryRow} (now : Timestamptz) (leaseSeconds : ℤ)
    (hsettled : ¬row.Settled) (hleft : row.attempts < row.maxAttempts) :
    (row.assign (claimAssignment now leaseSeconds row)).load + 1 = row.load := by
  have hbusy : ¬(row.assign (claimAssignment now leaseSeconds row)).Settled :=
    DeliveryRow.not_settled_of_delivering rfl
  rw [DeliveryRow.load_of_not_settled hbusy, DeliveryRow.load_of_not_settled hsettled]
  show (row.maxAttempts - (row.attempts + 1)).toNat + 1 + 1 = _
  omega

theorem DeliveryRow.load_retired (row : DeliveryRow) (now : Timestamptz) :
    (row.assign (retireAssignment now row)).load = 0 :=
  DeliveryRow.load_of_settled (.inr rfl)

theorem DeliveryRow.load_outcome_le {row : DeliveryRow} (now : Timestamptz)
    (status : DeliveryStatus) (nextAvailableAt : Option OffsetDateTime) (hsettled : ¬row.Settled) :
    (row.assign (outcomeAssignment now status nextAvailableAt row)).load ≤ row.load := by
  rw [DeliveryRow.load_of_not_settled hsettled, DeliveryRow.load]
  split
  · exact Nat.zero_le _
  · exact le_rfl

/-- **A move makes the row no heavier**, unless it is a replay. -/
theorem Observed.load_le {begins : Timestamptz} {id : String} {stored : Option Stored}
    {l l' : Life} (h : Observed begins id stored l l')
    (hreplay : stored.bind (Stored.replayOf id) = none) : l'.row.load ≤ l.row.load := by
  cases h with
  | still => exact le_rfl
  | expired => exact le_rfl
  | retired => exact (DeliveryRow.load_retired _ _).trans_le (Nat.zero_le _)
  | claimed leaseSeconds hwaiting hleft =>
    have hsettled := DeliveryRow.not_settled_of_waiting (DeliveryRow.isWaiting_iff.mp hwaiting).1
    exact (Nat.le_succ _).trans_eq (DeliveryRow.load_claimed begins leaseSeconds hsettled hleft)
  | reclaimed leaseSeconds hexpired hleft =>
    have hsettled :=
      DeliveryRow.not_settled_of_delivering (DeliveryRow.isExpired_iff.mp hexpired).2.1
    exact (Nat.le_succ _).trans_eq (DeliveryRow.load_claimed begins leaseSeconds hsettled hleft)
  | recorded hid hfenced =>
    obtain ⟨-, -, hstatus, -⟩ := DeliveryRow.isFenced_iff.mp hfenced
    exact DeliveryRow.load_outcome_le _ _ _ (DeliveryRow.not_settled_of_delivering hstatus)
  | replayed => exact absurd hreplay (by simp [Stored.replayOf])

/-! ### What a step does to the weight -/

/-- **Rows are never removed or reordered.** A transaction updates them in place, or it adds the row
of a new delivery at the end. -/
theorem Writes.rows {s : Sys P} (hinv : s.Inv) {begins : Timestamptz} {stored : Option Stored}
    (h : Writes s begins stored db') :
    (∃ f : DeliveryRow → DeliveryRow, (∀ row, (f row).deliveryId = row.deliveryId) ∧
      db'.deliveries = s.db.deliveries.map f) ∨
    ∃ delivery record, stored = some (.enqueue delivery (.ok (.created record))) ∧
      db'.deliveries = s.db.deliveries ++ [delivery.toRow begins] := by
  have hsame : ∀ {db' : Db}, db' = s.db →
      ∃ f : DeliveryRow → DeliveryRow, (∀ row, (f row).deliveryId = row.deliveryId) ∧
        db'.deliveries = s.db.deliveries.map f := by
    rintro _ rfl
    exact ⟨id, fun _ => rfl, (List.map_id _).symm⟩
  cases h with
  | nothing => exact .inl (hsame rfl)
  | @enqueue plugin caller now request delivery hnew =>
    rcases transact_insertOrGet (enqueued_of_newDelivery hnew) begins with
      ⟨row, -, -, hresult⟩ | ⟨db', hresult, -, hd, -⟩ | hresult
    · rw [hresult]
      exact .inl (hsame rfl)
    · rw [hresult]
      exact .inr ⟨delivery, _, rfl, hd⟩
    · rw [hresult]
      exact .inl (hsame rfl)
  | claim plugin locked =>
    obtain ⟨db', hok, hd, -⟩ := hinv.claim plugin begins locked
    rw [hok]
    exact .inl ⟨_, Db.afterClaim_deliveryId, hd⟩
  | @outcome p conclusion hp hsince houtcome =>
    cases hrun : conclusion.call.run begins s.db with
    | error e =>
      rw [transact_of_eq_error hrun]
      exact .inl (hsame rfl)
    | ok result =>
      obtain ⟨⟨⟩, db'⟩ := result
      rw [transact_of_eq_ok hrun]
      obtain ⟨-, -, hd, -⟩ := recordOutcome_ok_inv hrun
      exact .inl ⟨_, DeliveryRow.updated_deliveryId _ _, hd⟩
  | replay deliveryId =>
    obtain ⟨db', hok, hd, -⟩ := beginReplay_eq_ok begins deliveryId s.db
    rw [transact_of_eq_ok hok]
    exact .inl ⟨_, DeliveryRow.updated_deliveryId _ _, hd⟩

/-- Rows that become no heavier, one by one. -/
theorem Db.weight_map_le {f : DeliveryRow → DeliveryRow} (hd : db'.deliveries = db.deliveries.map f)
    (hle : ∀ row ∈ db.deliveries, (f row).weight queueName ≤ row.weight queueName) :
    db'.weight queueName ≤ db.weight queueName := by
  rw [Db.weight, Db.weight, hd, List.map_map]
  exact List.sum_le_sum hle

/-- One of them becomes lighter. -/
theorem Db.weight_map_lt {f : DeliveryRow → DeliveryRow} (hd : db'.deliveries = db.deliveries.map f)
    (hle : ∀ row ∈ db.deliveries, (f row).weight queueName ≤ row.weight queueName)
    (hlt : ∃ row ∈ db.deliveries, (f row).weight queueName < row.weight queueName) :
    db'.weight queueName < db.weight queueName := by
  rw [Db.weight, Db.weight, hd, List.map_map]
  exact List.sum_lt_sum _ _ hle hlt

/-- A step that brings no event to the queue and replays none of its deliveries. -/
def Calm (queueName : String) (s : Sys P) (label : Label P) (_ : Sys P) : Prop :=
  (∀ delivery record, label.observation.stored = some (.enqueue delivery (.ok (.created record))) →
    delivery.queueName ≠ queueName) ∧
  ∀ row ∈ s.db.deliveries, row.queueName = queueName →
    label.observation.replayOf row.deliveryId = none

/-- **A calm step makes the queue no heavier.** -/
theorem Step.weight_le {s t : Sys P} {label : Label P} (hinv : s.Inv) (h : Step s label t)
    (hcalm : Calm queueName s label t) : t.db.weight queueName ≤ s.db.weight queueName := by
  have hrefines := h.writes.refines hinv
  rcases h.writes.rows hinv with ⟨f, hf, hd⟩ | ⟨delivery, record, hstored, hd⟩
  · refine Db.weight_map_le hd ?_
    intro row hrow
    have hlife := Db.life_of_mem hrow
    obtain ⟨l', hl', hobserved⟩ := hrefines.moves _ _ hlife
    have hdelivery := Db.delivery_of_map hd hf row.deliveryId
    rw [(Db.life_eq_some_iff.mp hl').1, Db.delivery_of_mem hrow, Option.map_some,
      Option.some.injEq] at hdelivery
    obtain ⟨l₁, hl₁, hevolves⟩ := hrefines.evolves _ _ hlife
    rw [hl', Option.some.injEq] at hl₁
    subst hl₁
    have hqueue : l'.row.queueName = row.queueName := congrArg Content.queueName hevolves.content
    rw [← hdelivery, DeliveryRow.weight, DeliveryRow.weight, hqueue]
    split
    · exact hobserved.load_le (hcalm.2 row hrow ‹_›)
    · exact le_rfl
  · have hqueue : (delivery.toRow label.begins).queueName ≠ queueName :=
      hcalm.1 delivery record hstored
    rw [Db.weight, Db.weight, hd, List.map_append, List.sum_append, List.map_singleton,
      List.sum_singleton, DeliveryRow.weight, if_neg hqueue, add_zero]

/-! ### Patient claims -/

/-- A dispatch of the queue that finds no row locked, when the time of every unsettled delivery of
the queue has come. -/
def PatientClaim (queueName : String) (s : Sys P) (label : Label P) (t : Sys P) : Prop :=
  (∃ (plugin : OutboundWebhookPlugin P) (caller : Option String) (locked : List String),
    label.action = .start (.dispatch plugin caller) ∧ plugin.active.isSome ∧
    plugin.config.adminAllowed caller ∧ plugin.config.queueName = queueName ∧
    (∀ row ∈ s.db.deliveries, row.queueName = queueName → row.deliveryId ∉ locked) ∧
    t.db = (dispatchDelivery plugin caller label.begins locked s.db).db) ∧
  ∀ row ∈ s.db.deliveries, row.queueName = queueName → ¬row.Settled →
    row.availableAt ≤ label.begins ∧ ∀ lease ∈ row.leaseExpiresAt, lease ≤ label.begins

section Unlocked

variable {now : Timestamptz} {locked : List String}

/-- Locks on rows of other queues do not matter. -/
theorem Db.expired_of_unlocked
    (hlocked : ∀ row ∈ db.deliveries, row.queueName = queueName → row.deliveryId ∉ locked) :
    db.expired now locked queueName = db.expired now [] queueName := by
  rw [Db.expired, Db.expired]
  refine congrArg _ (List.filter_congr ?_)
  intro row hrow
  cases hexpired : row.isExpired now queueName with
  | false => rfl
  | true =>
    have hnot := hlocked row hrow (DeliveryRow.isExpired_iff.mp hexpired).1
    simp [hnot]

theorem Db.candidate_of_unlocked
    (hlocked : ∀ row ∈ db.deliveries, row.queueName = queueName → row.deliveryId ∉ locked) :
    db.candidate now locked queueName = db.candidate now [] queueName := by
  rw [Db.candidate, Db.candidate, Db.expired_of_unlocked hlocked]
  refine congrArg _ (List.filter_congr ?_)
  intro row hrow
  by_cases hqueue : row.queueName = queueName
  · simp [hlocked row hrow hqueue]
  · simp [DeliveryRow.isCandidate, hqueue]

theorem claimDue_of_unlocked {leaseSeconds : ℤ} (hlease : FitsI32 leaseSeconds)
    (hlocked : ∀ row ∈ db.deliveries, row.queueName = queueName → row.deliveryId ∉ locked) :
    claimDue now locked queueName leaseSeconds db = claimDue now [] queueName leaseSeconds db := by
  rw [claimDue, claimDue, i32_bind hlease, i32_bind hlease, bind_of_eq_ok get_apply,
    bind_of_eq_ok get_apply, Db.expired_of_unlocked hlocked, Db.candidate_of_unlocked hlocked]

end Unlocked

section OneClaim

variable {now : Timestamptz} {leaseSeconds : ℤ}

theorem Db.Claimable.not_settled {locked : List String} {row : DeliveryRow}
    (h : db.Claimable now locked queueName row) : ¬row.Settled := by
  obtain ⟨-, -, -, hwaiting | hexpired, -⟩ := h
  · exact DeliveryRow.not_settled_of_waiting (DeliveryRow.isWaiting_iff.mp hwaiting).1
  · exact DeliveryRow.not_settled_of_delivering
      (DeliveryRow.isExpired_iff.mp (Db.mem_expired hexpired).2.1).2.1

/-- The row that is claimed becomes lighter. -/
theorem Db.weight_claimed {row : DeliveryRow} (h : db.candidate now [] queueName = some row) :
    (db.afterClaim now [] queueName leaseSeconds row).weight queueName < row.weight queueName := by
  obtain ⟨-, hqueue, hleft, -⟩ := Db.candidate_eq_some h
  have hsettled := (Db.candidate_eq_some h).not_settled
  rw [Db.afterClaim_of_candidate h, DeliveryRow.weight, DeliveryRow.weight,
    DeliveryRow.assign_queueName, if_pos hqueue, if_pos hqueue]
  exact (Nat.lt_succ_self _).trans_eq
    (DeliveryRow.load_claimed now leaseSeconds hsettled hleft)

/-- So does a row that is retired. -/
theorem Db.weight_retired {row : DeliveryRow} (h : row ∈ db.expired now [] queueName)
    (hlast : row.maxAttempts ≤ row.attempts) :
    (db.afterClaim now [] queueName leaseSeconds row).weight queueName < row.weight queueName := by
  obtain ⟨hqueue, hstatus, -⟩ := DeliveryRow.isExpired_iff.mp (Db.mem_expired h).2.1
  rw [Db.afterClaim_of_exhausted h hlast, DeliveryRow.weight, DeliveryRow.weight,
    DeliveryRow.assign_queueName, if_pos hqueue, if_pos hqueue, DeliveryRow.load_retired,
    DeliveryRow.load_of_not_settled (DeliveryRow.not_settled_of_delivering hstatus)]
  exact Nat.succ_pos _

theorem Db.weight_afterClaim_le {row : DeliveryRow} (hrow : row ∈ db.deliveries) :
    (db.afterClaim now [] queueName leaseSeconds row).weight queueName ≤ row.weight queueName := by
  rcases Db.afterClaim_cases now [] queueName leaseSeconds hrow with
    ⟨hcandidate, -⟩ | ⟨-, hexpired, hlast, -⟩ | ⟨-, -, heq⟩
  · exact (Db.weight_claimed hcandidate).le
  · exact (Db.weight_retired hexpired hlast).le
  · rw [heq]

/-- **A claim that finds nothing retires something**, unless no row is due or exhausted. -/
theorem Db.exists_lighter (leaseSeconds : ℤ) {row : DeliveryRow} (hrow : row ∈ db.deliveries)
    (hdue : row.isDue now queueName ∨ row.isExhausted now queueName) :
    ∃ other ∈ db.deliveries,
      (db.afterClaim now [] queueName leaseSeconds other).weight queueName
        < other.weight queueName := by
  cases hc : db.candidate now [] queueName with
  | some c => exact ⟨c, (Db.candidate_eq_some hc).1, Db.weight_claimed hc⟩
  | none =>
    have hbatch : db.expired now [] queueName ≠ [] := by
      rcases hdue with hdue | hexhausted
      · have := Db.length_expired_of_candidate_eq_none hc (Db.mem_due.mpr ⟨hrow, hdue⟩)
        exact List.ne_nil_of_length_pos (by omega)
      · by_cases hmem : row ∈ db.expired now [] queueName
        · exact List.ne_nil_of_mem hmem
        · have hexpired := (DeliveryRow.isExhausted_iff.mp hexhausted).1
          have := Db.length_expired_of_notMem hrow hexpired hmem
          exact List.ne_nil_of_length_pos (by omega)
    obtain ⟨e, he⟩ := List.exists_mem_of_ne_nil _ hbatch
    have hlast := (DeliveryRow.isExhausted_iff.mp (Db.exhausted_of_candidate_eq_none hc he)).2
    exact ⟨e, (Db.mem_expired he).1, Db.weight_retired he hlast⟩

theorem Db.exists_unsettled (h : db.weight queueName ≠ 0) :
    ∃ row ∈ db.deliveries, row.queueName = queueName ∧ ¬row.Settled := by
  by_contra hnone
  refine h (List.sum_eq_zero ?_)
  intro weight hweight
  obtain ⟨row, hrow, rfl⟩ := List.mem_map.mp hweight
  rw [DeliveryRow.weight]
  split
  · exact DeliveryRow.load_of_settled (not_not.mp fun hs => hnone ⟨row, hrow, ‹_›, hs⟩)
  · rfl

end OneClaim

/-- The tables after a dispatch that finds no row of its queue locked. -/
theorem dispatchDelivery_db {s : Sys P} (hinv : s.Inv) {plugin : OutboundWebhookPlugin P}
    {caller : Option String} (hactive : plugin.active.isSome)
    (hallowed : plugin.config.adminAllowed caller) (begins : Timestamptz) {locked : List String}
    (hlocked : ∀ row ∈ s.db.deliveries, row.queueName = plugin.config.queueName →
      row.deliveryId ∉ locked) :
    (dispatchDelivery plugin caller begins locked s.db).db.deliveries = s.db.deliveries.map
      (s.db.afterClaim begins [] plugin.config.queueName plugin.config.leaseSeconds) := by
  obtain ⟨prepared, hactive⟩ := Option.isSome_iff_exists.mp hactive
  have hprepared : plugin.prepared = .ok prepared := by rw [OutboundWebhookPlugin.prepared, hactive]
  obtain ⟨db', hok, hd, -⟩ := hinv.claim plugin begins []
  have hclaim : claimDue begins locked plugin.config.queueName plugin.config.leaseSeconds s.db
      = claimDue begins [] plugin.config.queueName plugin.config.leaseSeconds s.db :=
    claimDue_of_unlocked plugin.fits_leaseSeconds hlocked
  rw [transact, ← hclaim, ← transact] at hok
  simp only [dispatchDelivery, hallowed, hprepared, hok, Bool.not_true, Bool.false_eq_true,
    if_false]
  exact hd

/-- **A patient claim makes the queue lighter**, until there is nothing to do. -/
theorem PatientClaim.weight_le {s t : Sys P} {label : Label P} (hinv : s.Inv)
    (h : PatientClaim queueName s label t) :
    t.db.weight queueName ≤ s.db.weight queueName - 1 := by
  obtain ⟨⟨plugin, caller, locked, -, hactive, hallowed, rfl, hlocked, hdb⟩, hpatient⟩ := h
  have hd := dispatchDelivery_db hinv hactive hallowed label.begins hlocked
  rw [← hdb] at hd
  have hle : t.db.weight plugin.config.queueName ≤ s.db.weight plugin.config.queueName :=
    Db.weight_map_le hd fun row hrow => Db.weight_afterClaim_le hrow
  by_cases hzero : s.db.weight plugin.config.queueName = 0
  · omega
  · obtain ⟨row, hrow, hqueue, hsettled⟩ := Db.exists_unsettled hzero
    have hsound : row.Sound := (hinv.sound _ _ (Db.life_of_mem hrow)).row
    obtain ⟨havailable, hexpired⟩ := hpatient row hrow hqueue hsettled
    have hdue := hsound.due_or_exhausted havailable hexpired (fun hs => hsettled (.inl hs))
      fun hs => hsettled (.inr hs)
    rw [hqueue] at hdue
    have hlt := Db.weight_map_lt hd (fun row hrow => Db.weight_afterClaim_le hrow)
      (Db.exists_lighter plugin.config.leaseSeconds hrow hdue)
    omega

/-! ### Waiting long enough -/

/-- A time at which the time of every delivery has come. -/
theorem Db.exists_time (db : Db) (now : Timestamptz) :
    ∃ t, now ≤ t ∧ ∀ row ∈ db.deliveries,
      row.availableAt ≤ t ∧ ∀ lease ∈ row.leaseExpiresAt, lease ≤ t := by
  obtain ⟨t, ht⟩ := (now :: (db.deliveries.map DeliveryRow.availableAt
    ++ db.deliveries.filterMap DeliveryRow.leaseExpiresAt)).toFinset.exists_le
  simp only [List.mem_toFinset, List.mem_cons, List.mem_append] at ht
  refine ⟨t, ht now (.inl rfl), ?_⟩
  intro row hrow
  refine ⟨ht _ (.inr (.inl (List.mem_map_of_mem hrow))), ?_⟩
  intro lease hlease
  exact ht _ (.inr (.inr (List.mem_filterMap.mpr ⟨row, hrow, hlease⟩)))

/-- An operator can always wait, and claim. -/
theorem exists_patientClaim (s : Sys P) {plugin : OutboundWebhookPlugin P} {caller : Option String}
    (hactive : plugin.active.isSome) (hallowed : plugin.config.adminAllowed caller) :
    ∃ label t, Step s label t ∧ PatientClaim plugin.config.queueName s label t := by
  obtain ⟨t, hnow, htime⟩ := s.db.exists_time s.now
  have hstep : Step s _ _ := @Step.start P s t t [] (.dispatch plugin caller) (le_refl t) hnow
  refine ⟨_, _, hstep, ⟨plugin, caller, [], rfl, hactive, hallowed, rfl, ?_, rfl⟩, ?_⟩
  · intro row hrow hqueue
    exact List.not_mem_nil
  · intro row hrow hqueue hsettled
    exact htime row hrow

/-- **Every queue settles.** Whatever the receiver answers and whatever else is going on, as many
patient claims as the queue is heavy leave every delivery of it delivered or dead-lettered, unless
events arrive or deliveries are replayed. They are always possible. -/
theorem queue_settles (P : Platform) {s : Sys P} (hs : (system P).Reachable s)
    (queueName : String) :
    (∀ n t, (system P).Rounds (Calm queueName) (PatientClaim queueName) n s t →
      t.db.weight queueName ≤ s.db.weight queueName - n ∧
      (s.db.weight queueName ≤ n → ∀ row ∈ t.db.deliveries, row.queueName = queueName →
        row.Settled)) ∧
    ∀ (plugin : OutboundWebhookPlugin P) (caller : Option String), plugin.active.isSome →
      plugin.config.adminAllowed caller → plugin.config.queueName = queueName →
      ∀ n, ∃ t, (system P).Rounds (Calm queueName) (PatientClaim queueName) n s t := by
  refine ⟨?_, ?_⟩
  · intro n t hrounds
    have hle := hrounds.measure_le (μ := fun s => s.db.weight queueName)
      (fun s e t hs hstep => Step.weight_le (reachable_inv hs) hstep)
      (fun s e t hs hstep => PatientClaim.weight_le (reachable_inv hs)) hs
    refine ⟨hle, ?_⟩
    intro hn row hrow hqueue
    exact Db.settled_of_weight_eq_zero (by omega) hrow hqueue
  · rintro plugin caller hactive hallowed rfl n
    exact TransitionSystem.exists_rounds
      (fun s _ => exists_patientClaim s hactive hallowed) hs n

/-- The first order was sent, and its worker is never heard of again. -/
theorem queue_settles_abandoned :
    ∃ s n t, (system reference).Reachable s ∧ s.db.deliveries = [firstOrder.row 0] ∧
      (system reference).Rounds (Calm "webhooks") (PatientClaim "webhooks") n s t ∧
      ∀ row ∈ t.db.deliveries, row.queueName = "webhooks" → row.Settled := by
  obtain ⟨labels, s, hrun, -, hd, -⟩ := exists_first_sent
  obtain ⟨hsettles, hpossible⟩ := queue_settles reference hrun.reachable "webhooks"
  obtain ⟨t, ht⟩ :=
    hpossible firstOrder.plugin firstOrder.operator rfl rfl rfl (s.db.weight "webhooks")
  exact ⟨s, _, t, hrun.reachable, hd, ht, (hsettles _ t ht).2 le_rfl⟩

end OutboundWebhook
