import OutboundWebhook.Reference

/-!
# The queue and its backlog

A claim looks at the rows that wait for their time and at a batch of at most 64 expired leases.
The rows of the batch that have no attempt left are retired on the way. A row that is due under an
expired lease can therefore be out of sight, behind 64 rows with older leases.

`Db.due` is the queue without the batch: every row that has an attempt left and whose time has
come, or whose lease has expired. `Db.exhausted` are the expired rows that are to be retired.

## The measure

A claim takes one row out of `due`, or it retires 64 rows of `exhausted`, or `due` is empty and it
retires what is left. So `Db.backlog`, the number of due rows and the number of batches that the
exhausted rows fill, goes down by at least one with each claim.

## Main results

* `bounded_claim` — which row a claim returns, and when it is the first due one
* `backlog_drains` — a backlog of any size is claimed or retired
-/

namespace OutboundWebhook

variable {P : Platform} {db db' : Db} {t : Timestamptz} {queueName : String} {leaseSeconds : ℤ}

/-! ### Due rows -/

/-- There is an attempt left, and the row waits for nothing but a worker. -/
def DeliveryRow.isDue (t : Timestamptz) (queueName : String) (row : DeliveryRow) : Bool :=
  row.queueName == queueName && row.attempts < row.maxAttempts
    && (row.isWaiting t || (row.status == .delivering && row.leaseExpired t))

/-- The lease of the last attempt has expired. -/
def DeliveryRow.isExhausted (t : Timestamptz) (queueName : String) (row : DeliveryRow) : Bool :=
  row.isExpired t queueName && row.maxAttempts ≤ row.attempts

/-- The queue as it would be without a bound on the batch. -/
def Db.due (db : Db) (t : Timestamptz) (queueName : String) : List DeliveryRow :=
  db.deliveries.filter (DeliveryRow.isDue t queueName)

def Db.exhausted (db : Db) (t : Timestamptz) (queueName : String) : List DeliveryRow :=
  db.deliveries.filter (DeliveryRow.isExhausted t queueName)

/-- The due rows, and the batches that the exhausted rows fill. -/
def Db.backlog (db : Db) (t : Timestamptz) (queueName : String) : ℕ :=
  (db.due t queueName).length + ((db.exhausted t queueName).length + 63) / 64

/-- `found` is the first row in the order of availability that satisfies `cond`, if any does. -/
def Db.First (db : Db) (cond : DeliveryRow → Prop) : Option DeliveryRow → Prop
  | some row => row ∈ db.deliveries ∧ cond row ∧
      ∀ other ∈ db.deliveries, cond other → dueOrder row ≤ dueOrder other
  | none => ∀ row ∈ db.deliveries, ¬cond row

/-- Fewer than 64 expired leases of the queue come before the row's. -/
def Db.InBatch (db : Db) (t : Timestamptz) (queueName : String) (row : DeliveryRow) : Prop :=
  row.isExpired t queueName ∧
    (db.deliveries.filter fun other =>
      other.isExpired t queueName && expiryOrder other < expiryOrder row).length < 64

theorem DeliveryRow.isDue_iff {row : DeliveryRow} :
    row.isDue t queueName ↔ row.queueName = queueName ∧ row.attempts < row.maxAttempts ∧
      (row.isWaiting t ∨ row.isExpired t queueName) := by
  simp only [DeliveryRow.isDue, DeliveryRow.isExpired, Bool.and_eq_true, Bool.or_eq_true,
    beq_iff_eq, decide_eq_true_eq]
  tauto

theorem DeliveryRow.isExhausted_iff {row : DeliveryRow} :
    row.isExhausted t queueName ↔ row.isExpired t queueName ∧ row.maxAttempts ≤ row.attempts := by
  simp [DeliveryRow.isExhausted]

theorem Db.mem_due {row : DeliveryRow} :
    row ∈ db.due t queueName ↔ row ∈ db.deliveries ∧ row.isDue t queueName :=
  List.mem_filter

theorem Db.mem_exhausted {row : DeliveryRow} :
    row ∈ db.exhausted t queueName ↔ row ∈ db.deliveries ∧ row.isExhausted t queueName :=
  List.mem_filter

theorem Db.nodup_deliveries (db : Db) : db.deliveries.Nodup := db.deliveries_pkey.of_map

/-! ### The batch -/

/-- With no row locked, the rows the batch is taken from are the expired ones. -/
theorem Db.expired_eq :
    db.expired t [] queueName = Selection.firstBy expiryOrder expiredDeliveryMaintenanceBatchLimit
      (db.deliveries.filter (DeliveryRow.isExpired t queueName)) := by
  simp [Db.expired]

theorem Db.eq_of_expiryOrder_eq {row row' : DeliveryRow} (h : row ∈ db.deliveries)
    (h' : row' ∈ db.deliveries) (hkey : expiryOrder row = expiryOrder row') : row = row' := by
  simp only [expiryOrder, EmbeddingLike.apply_eq_iff_eq, Prod.mk.injEq] at hkey
  exact Db.eq_of_deliveryId_eq h h' hkey.2

theorem Db.mem_expired_iff {row : DeliveryRow} :
    row ∈ db.expired t [] queueName ↔ row ∈ db.deliveries ∧ db.InBatch t queueName row := by
  have hinj : ∀ a ∈ db.deliveries.filter (DeliveryRow.isExpired t queueName),
      ∀ b ∈ db.deliveries.filter (DeliveryRow.isExpired t queueName),
      expiryOrder a = expiryOrder b → a = b := fun a ha b hb =>
    Db.eq_of_expiryOrder_eq (List.mem_filter.mp ha).1 (List.mem_filter.mp hb).1
  have hbefore : (db.deliveries.filter (DeliveryRow.isExpired t queueName)).filter
        (fun other => expiryOrder other < expiryOrder row)
      = db.deliveries.filter fun other =>
        other.isExpired t queueName && expiryOrder other < expiryOrder row := by
    rw [List.filter_filter]
    exact List.filter_congr fun other _ => Bool.and_comm _ _
  rw [Db.expired_eq, Selection.mem_firstBy_iff hinj, List.mem_filter, hbefore, Db.InBatch,
    expiredDeliveryMaintenanceBatchLimit, and_assoc]

/-- While the expired rows fit the batch, all of them are in it. -/
theorem Db.mem_expired_of_length_le {row : DeliveryRow}
    (hfew : (db.deliveries.filter (DeliveryRow.isExpired t queueName)).length ≤ 64)
    (hrow : row ∈ db.deliveries) (hexpired : row.isExpired t queueName) :
    row ∈ db.expired t [] queueName := by
  rw [Db.expired_eq]
  exact Selection.mem_firstBy_of_length_le hfew (List.mem_filter.mpr ⟨hrow, hexpired⟩)

theorem Db.mem_expired_of_pair {first second row : DeliveryRow}
    (hd : db.deliveries = [first, second]) (hrow : row ∈ db.deliveries)
    (hexpired : row.isExpired t queueName) : row ∈ db.expired t [] queueName := by
  refine Db.mem_expired_of_length_le ((List.length_filter_le _ _).trans ?_) hrow hexpired
  rw [hd]
  show 2 ≤ 64
  omega

/-- Of two rows, the claim takes the expired one that was due earlier. -/
theorem Db.candidate_of_pair {first second : DeliveryRow} (hd : db.deliveries = [first, second])
    (hqueue : first.queueName = queueName) (hleft : first.attempts < first.maxAttempts)
    (hexpired : first.isExpired t queueName) (horder : dueOrder first ≤ dueOrder second) :
    db.candidate t [] queueName = some first := by
  have hfirst : first ∈ db.deliveries := by
    rw [hd]
    exact List.mem_cons_self
  refine Db.candidate_eq_some_iff.mpr ⟨⟨hfirst, hqueue, hleft,
    .inr (Db.mem_expired_of_pair hd hfirst hexpired), List.not_mem_nil⟩, ?_⟩
  intro other hother
  have hmem := hother.1
  rw [hd] at hmem
  rcases List.mem_pair.mp hmem with rfl | rfl
  · exact le_refl _
  · exact horder

/-- An expired row that is out of sight has a full batch before it. -/
theorem Db.length_expired_of_notMem {row : DeliveryRow} (hrow : row ∈ db.deliveries)
    (hexpired : row.isExpired t queueName) (hnot : row ∉ db.expired t [] queueName) :
    (db.expired t [] queueName).length = 64 := by
  rw [Db.expired_eq] at hnot ⊢
  by_contra hne
  have hlen := Selection.length_firstBy expiryOrder expiredDeliveryMaintenanceBatchLimit
    (db.deliveries.filter (DeliveryRow.isExpired t queueName))
  rw [expiredDeliveryMaintenanceBatchLimit] at hlen hne hnot
  exact hnot (Selection.mem_firstBy_of_length_lt (by omega) (List.mem_filter.mpr ⟨hrow, hexpired⟩))

theorem Db.claimable_iff {row : DeliveryRow} :
    db.Claimable t [] queueName row ↔ row ∈ db.deliveries ∧
      (row.isDue t queueName ∧ (row.isWaiting t ∨ db.InBatch t queueName row)) := by
  rw [Db.Claimable, Db.mem_expired_iff, DeliveryRow.isDue_iff]
  constructor
  · rintro ⟨hrow, hqueue, hleft, hwaiting | ⟨-, hbatch⟩, -⟩
    · exact ⟨hrow, ⟨hqueue, hleft, .inl hwaiting⟩, .inl hwaiting⟩
    · exact ⟨hrow, ⟨hqueue, hleft, .inr hbatch.1⟩, .inr hbatch⟩
  · rintro ⟨hrow, ⟨hqueue, hleft, -⟩, hwaiting | hbatch⟩
    · exact ⟨hrow, hqueue, hleft, .inl hwaiting, List.not_mem_nil⟩
    · exact ⟨hrow, hqueue, hleft, .inr ⟨hrow, hbatch⟩, List.not_mem_nil⟩

/-- **The candidate is the first due row in sight.** -/
theorem Db.first_candidate (db : Db) (t : Timestamptz) (queueName : String) :
    db.First
      (fun row => row.isDue t queueName ∧ (row.isWaiting t ∨ db.InBatch t queueName row))
      (db.candidate t [] queueName) := by
  cases hc : db.candidate t [] queueName with
  | none =>
    intro row hrow hcond
    exact Db.candidate_eq_none_iff.mp hc row (Db.claimable_iff.mpr ⟨hrow, hcond⟩)
  | some row =>
    obtain ⟨hclaimable, hleast⟩ := Db.candidate_eq_some_iff.mp hc
    obtain ⟨hrow, hcond⟩ := Db.claimable_iff.mp hclaimable
    refine ⟨hrow, hcond, ?_⟩
    intro other hother hdue
    exact hleast other (Db.claimable_iff.mpr ⟨hother, hdue⟩)

theorem Db.First.congr {cond cond' : DeliveryRow → Prop} {found : Option DeliveryRow}
    (h : db.First cond found) (hcond : ∀ row ∈ db.deliveries, cond row ↔ cond' row) :
    db.First cond' found := by
  cases found with
  | none => exact fun row hrow hc => h row hrow ((hcond row hrow).mpr hc)
  | some row =>
    obtain ⟨hrow, hc, hleast⟩ := h
    exact ⟨hrow, (hcond row hrow).mp hc,
      fun other hother ho => hleast other hother ((hcond other hother).mpr ho)⟩

/-- **A batch that holds every expired lease is no bound.** -/
theorem Db.first_candidate_of_length_le
    (hfew : (db.deliveries.filter (DeliveryRow.isExpired t queueName)).length ≤ 64) :
    db.First (fun row => row.isDue t queueName) (db.candidate t [] queueName) := by
  refine (db.first_candidate t queueName).congr fun row hrow => ⟨And.left, fun hdue => ⟨hdue, ?_⟩⟩
  obtain ⟨-, -, hwaiting | hexpired⟩ := DeliveryRow.isDue_iff.mp hdue
  · exact .inl hwaiting
  · exact .inr (Db.mem_expired_iff.mp (Db.mem_expired_of_length_le hfew hrow hexpired)).2

/-- A claim that finds nothing has only exhausted rows in its batch. -/
theorem Db.exhausted_of_candidate_eq_none (hnone : db.candidate t [] queueName = none)
    {row : DeliveryRow} (h : row ∈ db.expired t [] queueName) : row.isExhausted t queueName := by
  obtain ⟨hrow, hexpired, -⟩ := Db.mem_expired h
  refine DeliveryRow.isExhausted_iff.mpr ⟨hexpired, not_lt.mp ?_⟩
  intro hleft
  exact Db.candidate_eq_none_iff.mp hnone row
    ⟨hrow, (DeliveryRow.isExpired_iff.mp hexpired).1, hleft, .inr h, List.not_mem_nil⟩

/-- A claim that finds nothing while a row is due has a full batch. -/
theorem Db.length_expired_of_candidate_eq_none (hnone : db.candidate t [] queueName = none)
    {row : DeliveryRow} (hdue : row ∈ db.due t queueName) :
    (db.expired t [] queueName).length = 64 := by
  obtain ⟨hrow, hdue⟩ := Db.mem_due.mp hdue
  obtain ⟨hqueue, hleft, hwhy⟩ := DeliveryRow.isDue_iff.mp hdue
  have hnot := Db.candidate_eq_none_iff.mp hnone row
  rcases hwhy with hwaiting | hexpired
  · exact absurd ⟨hrow, hqueue, hleft, .inl hwaiting, List.not_mem_nil⟩ hnot
  · exact Db.length_expired_of_notMem hrow hexpired fun hmem =>
      hnot ⟨hrow, hqueue, hleft, .inr hmem, List.not_mem_nil⟩

/-! ### One claim -/

/-- A claim of any queue from a state that satisfies the invariant. -/
theorem claimDue_of_started (hlease : 1 ≤ leaseSeconds ∧ leaseSeconds ≤ 3600)
    (hstarted : ∀ row ∈ db.deliveries, row.status = .delivering → 1 ≤ row.attempts)
    (t : Timestamptz) (queueName : String) :
    ∃ db', transact (claimDue t [] queueName leaseSeconds) db
        = (.ok ((db.candidate t [] queueName).map fun row =>
            decodeDelivery (row.assign (claimAssignment t leaseSeconds row))), db') ∧
      db'.deliveries = db.deliveries.map (db.afterClaim t [] queueName leaseSeconds) ∧
      db'.attempts = KeyedTable.insertAll AttemptRow.key
        ((db.expired t [] queueName).map (leaseExpiredReceipt t)) db.attempts := by
  have hfits : FitsI32 leaseSeconds := ⟨by omega, by omega⟩
  obtain ⟨db', hok, hd, ha⟩ := claimDue_eq_ok t [] queueName hfits hstarted
  exact ⟨db', transact_of_eq_ok hok, hd, ha⟩

/-- An exhausted row of the batch is retired. -/
theorem Db.delivery_of_retired
    (hd : db'.deliveries = db.deliveries.map (db.afterClaim t [] queueName leaseSeconds))
    {row : DeliveryRow} (hrow : row ∈ db.expired t [] queueName)
    (hlast : row.maxAttempts ≤ row.attempts) :
    db'.delivery row.deliveryId = some (row.assign (retireAssignment t row)) := by
  rw [Db.delivery_of_map hd Db.afterClaim_deliveryId, Db.delivery_of_mem (Db.mem_expired hrow).1,
    Option.map_some, Db.afterClaim_of_exhausted hrow hlast]

/-- A dispatch reports that it is idle exactly when it has found no candidate. -/
theorem dispatchDelivery_idle_iff {s : Sys P} (hinv : s.Inv) (plugin : OutboundWebhookPlugin P)
    {caller : Option String} {prepared : PreparedWebhook P plugin.config}
    (hactive : plugin.active = some prepared) (hallowed : plugin.config.adminAllowed caller)
    (t : Timestamptz) :
    (dispatchDelivery plugin caller t [] s.db).observation.answer
        = some (.dispatch (.ok idleDispatch)) ↔
      s.db.candidate t [] plugin.config.queueName = none := by
  obtain ⟨db', hok, -⟩ := hinv.claim plugin t []
  have hprepared : plugin.prepared = .ok prepared := by rw [OutboundWebhookPlugin.prepared, hactive]
  simp only [dispatchDelivery, hallowed, hprepared, hok, Bool.not_true, Bool.false_eq_true,
    if_false]
  cases s.db.candidate t [] plugin.config.queueName <;> simp [claimAnswer]

/-- **The bounded claim.** -/
theorem bounded_claim (P : Platform) {s : Sys P} (hs : (system P).Reachable s) (t : Timestamptz)
    (queueName : String) {leaseSeconds : ℤ} (hlease : 1 ≤ leaseSeconds ∧ leaseSeconds ≤ 3600) :
    ∃ claimed db', transact (claimDue t [] queueName leaseSeconds) s.db
        = (.ok (claimed.map fun row =>
            decodeDelivery (row.assign (claimAssignment t leaseSeconds row))), db') ∧
      s.db.First
        (fun row => row.isDue t queueName ∧ (row.isWaiting t ∨ s.db.InBatch t queueName row))
        claimed ∧
      ((s.db.deliveries.filter (DeliveryRow.isExpired t queueName)).length ≤ 64 →
        s.db.First (fun row => row.isDue t queueName) claimed) ∧
      (claimed = none → s.db.due t queueName ≠ [] →
        ∃ retired : List DeliveryRow, retired.Nodup ∧ retired.length = 64 ∧ ∀ row ∈ retired,
          row ∈ s.db.exhausted t queueName ∧
            db'.delivery row.deliveryId = some (row.assign (retireAssignment t row))) ∧
      ∀ (plugin : OutboundWebhookPlugin P) (caller : Option String)
        (prepared : PreparedWebhook P plugin.config), plugin.active = some prepared →
        plugin.config.adminAllowed caller → plugin.config.queueName = queueName →
        ((dispatchDelivery plugin caller t [] s.db).observation.answer
          = some (.dispatch (.ok idleDispatch)) ↔ claimed = none) := by
  have hinv := reachable_inv hs
  obtain ⟨db', hok, hd, -⟩ := claimDue_of_started hlease hinv.started t queueName
  refine ⟨_, db', hok, s.db.first_candidate t queueName, Db.first_candidate_of_length_le,
    ?_, ?_⟩
  · intro hnone hdue
    obtain ⟨row, hrow⟩ := List.exists_mem_of_ne_nil _ hdue
    refine ⟨s.db.expired t [] queueName, Db.nodup_expired.of_map,
      Db.length_expired_of_candidate_eq_none hnone hrow, ?_⟩
    intro row hrow
    have hexhausted := Db.exhausted_of_candidate_eq_none hnone hrow
    refine ⟨Db.mem_exhausted.mpr ⟨(Db.mem_expired hrow).1, hexhausted⟩, ?_⟩
    exact Db.delivery_of_retired hd hrow (DeliveryRow.isExhausted_iff.mp hexhausted).2
  · intro plugin caller prepared hactive hallowed hqueue
    subst hqueue
    exact dispatchDelivery_idle_iff hinv plugin hactive hallowed t

/-- As many events as a batch holds. -/
def batchEvents : List String :=
  "abcdefgh".toList.flatMap fun a => "abcdefgh".toList.map fun b => String.ofList [a, b]

theorem validEventName_batchEvents : ∀ eventId ∈ batchEvents, validEventName eventId := by
  decide +kernel

theorem nodup_batchEvents :
    (("order-1" :: batchEvents).map
      (stableDeliveryId reference "https://hooks.example.test/events")).Nodup := by
  decide +kernel

/-- One order for each of these events, with a single attempt. -/
def batchOrders : List (Accepted reference) :=
  batchEvents.pmap (fun eventId h => @hooksOrder 1 validate_one eventId h 0)
    validEventName_batchEvents

theorem map_batchOrders {α : Type} (f : Accepted reference → α) (g : String → α)
    (h : ∀ eventId hname, f (@hooksOrder 1 validate_one eventId hname 0) = g eventId) :
    batchOrders.map f = batchEvents.map g := by
  rw [batchOrders, List.map_pmap]
  simp only [h]
  exact List.pmap_eq_map _

/-- A batch of exhausted rows, and after them in the order of leases a row with an attempt left. -/
theorem exists_exhausted_batch :
    ∃ (s : Sys reference) (batch : List DeliveryRow), (system reference).Reachable s ∧
      s.db.deliveries = batch ++ [firstOrder.row 1] ∧ batch.length = 64 ∧
      ∀ row ∈ batch, row.isExhausted 60000000 "webhooks" ∧
        expiryOrder row < expiryOrder (firstOrder.row 1) := by
  have hids : batchOrders.map (fun order => order.delivery.deliveryId)
      = batchEvents.map (stableDeliveryId reference "https://hooks.example.test/events") :=
    map_batchOrders _ _ fun _ _ => rfl
  have hevents : batchOrders.map (fun order => order.delivery.eventId) = batchEvents := by
    rw [map_batchOrders _ id fun _ _ => rfl, List.map_id]
  have hnodup := List.nodup_cons.mp nodup_batchEvents
  obtain ⟨s, hs, hnow, hd, ha⟩ := exists_all_started batchOrders 0 (hids ▸ hnodup.2)
    (hevents ▸ by decide +kernel) fun order horder => by
      obtain ⟨eventId, hmem, rfl⟩ := List.mem_pmap.mp horder
      exact le_refl 0
  have hfits : firstOrder.FitsIn s.db 1 := by
    refine ⟨?_, ?_, by decide⟩
    · rw [hd, List.map_map]
      exact fun hmem => hnodup.1 (hids ▸ hmem)
    · rw [hd, List.map_map]
      have hfresh : firstOrder.delivery.eventId ∉ batchEvents := by decide +kernel
      exact fun hmem => hfresh (hevents ▸ hmem)
  have hbusy : s.db.AllBusy 1 := by
    intro row hrow
    rw [hd] at hrow
    obtain ⟨order, horder, rfl⟩ := List.mem_map.mp hrow
    obtain ⟨eventId, hmem, rfl⟩ := List.mem_pmap.mp horder
    exact ⟨rfl, 30000000, rfl, by decide⟩
  obtain ⟨labels, s', hpath, -, hd', -⟩ :=
    exists_started hs firstOrder hfits hbusy (by rw [hnow]; decide)
  refine ⟨s', _, hs.path hpath, by rw [hd', hd], ?_, ?_⟩
  · rw [List.length_map, batchOrders, List.length_pmap]
    decide +kernel
  · intro row hrow
    obtain ⟨order, horder, rfl⟩ := List.mem_map.mp hrow
    obtain ⟨eventId, hmem, rfl⟩ := List.mem_pmap.mp horder
    refine ⟨rfl, Prod.Lex.toLex_lt_toLex.mpr (.inl ?_)⟩
    show (30000000 : ℤ) < 30000001
    decide

/-- The row with an attempt left is due, and a claim does not find it. -/
theorem due_and_not_candidate {db : Db} {batch : List DeliveryRow}
    (hd : db.deliveries = batch ++ [firstOrder.row 1]) (hlength : batch.length = 64)
    (hbatch : ∀ row ∈ batch, row.isExhausted 60000000 "webhooks" ∧
      expiryOrder row < expiryOrder (firstOrder.row 1)) :
    firstOrder.row 1 ∈ db.due 60000000 "webhooks" ∧
      db.candidate 60000000 [] "webhooks" = none := by
  constructor
  · refine Db.mem_due.mpr ⟨?_, by decide⟩
    rw [hd]
    exact List.mem_append_right _ (List.mem_singleton.mpr rfl)
  · refine Db.candidate_eq_none_iff.mpr ?_
    intro row hclaimable
    obtain ⟨hrow, hdue, hsight⟩ := Db.claimable_iff.mp hclaimable
    rw [hd, List.mem_append, List.mem_singleton] at hrow
    rcases hrow with hrow | rfl
    · have hlast := (DeliveryRow.isExhausted_iff.mp (hbatch row hrow).1).2
      have hleft := (DeliveryRow.isDue_iff.mp hdue).2.1
      omega
    · rcases hsight with hwaiting | ⟨-, hfew⟩
      · exact absurd hwaiting (by decide)
      · have hbefore : ∀ row ∈ batch, row.isExpired 60000000 "webhooks"
            && decide (expiryOrder row < expiryOrder (firstOrder.row 1)) := by
          intro row hrow
          obtain ⟨hexhausted, hless⟩ := hbatch row hrow
          rw [Bool.and_eq_true]
          exact ⟨(DeliveryRow.isExhausted_iff.mp hexhausted).1, decide_eq_true hless⟩
        rw [hd, List.filter_append, List.filter_eq_self.mpr hbefore, List.length_append, hlength]
          at hfew
        omega

/-- **A due row can be overlooked** when 64 exhausted rows have older leases. -/
theorem due_row_overlooked :
    ∃ (s : Sys reference) (row : DeliveryRow), (system reference).Reachable s ∧
      row ∈ s.db.due 60000000 "webhooks" ∧
      (transact (claimDue 60000000 [] "webhooks" 30) s.db).1 = .ok none ∧
      (dispatchDelivery firstOrder.plugin firstOrder.operator 60000000 [] s.db).observation.answer
        = some (.dispatch (.ok idleDispatch)) := by
  obtain ⟨s, batch, hs, hd, hlength, hbatch⟩ := exists_exhausted_batch
  obtain ⟨hdue, hnone⟩ := due_and_not_candidate hd hlength hbatch
  have hinv := reachable_inv hs
  obtain ⟨db', hok, -⟩ := claimDue_of_started (show (1 : ℤ) ≤ 30 ∧ (30 : ℤ) ≤ 3600 by decide)
    hinv.started 60000000 "webhooks"
  rw [hnone] at hok
  exact ⟨s, firstOrder.row 1, hs, hdue, congrArg Prod.fst hok,
    (dispatchDelivery_idle_iff hinv firstOrder.plugin firstOrder.active
      firstOrder.operator_allowed 60000000).mpr hnone⟩

/-- The theorem at that state: the claim retires 64 rows instead. -/
theorem bounded_claim_batch :
    ∃ (s : Sys reference) (retired : List DeliveryRow) (db' : Db), (system reference).Reachable s ∧
      transact (claimDue 60000000 [] "webhooks" 30) s.db = (.ok none, db') ∧
      retired.Nodup ∧ retired.length = 64 ∧
      (∀ row ∈ retired, row ∈ s.db.exhausted 60000000 "webhooks" ∧
        db'.delivery row.deliveryId = some (row.assign (retireAssignment 60000000 row))) ∧
      (dispatchDelivery firstOrder.plugin firstOrder.operator 60000000 [] s.db).observation.answer
        = some (.dispatch (.ok idleDispatch)) := by
  obtain ⟨s, batch, hs, hd, hlength, hbatch⟩ := exists_exhausted_batch
  obtain ⟨hdue, hnone⟩ := due_and_not_candidate hd hlength hbatch
  have hlease : (1 : ℤ) ≤ 30 ∧ (30 : ℤ) ≤ 3600 := by decide
  obtain ⟨claimed, db', hclaim, -, -, hretired, hidle⟩ :=
    bounded_claim reference hs 60000000 "webhooks" hlease
  obtain ⟨db₁, hok, -⟩ := claimDue_of_started hlease (reachable_inv hs).started 60000000 "webhooks"
  rw [hclaim, hnone, Prod.mk.injEq, Except.ok.injEq, Option.map_none, Option.map_eq_none_iff] at hok
  obtain ⟨rfl, rfl⟩ := hok
  obtain ⟨retired, hnodup, hcount, hrows⟩ := hretired rfl (List.ne_nil_of_mem hdue)
  exact ⟨s, retired, db', hs, hclaim, hnodup, hcount, hrows,
    (hidle firstOrder.plugin firstOrder.operator firstOrder.prepared rfl rfl rfl).mpr rfl⟩

/-! ### Claims in sequence -/

/-- `n` claims of a queue, one after the other and all at one timestamp: what they return, and the
tables after them. -/
def claimsInSequence (t : Timestamptz) (queueName : String) (leaseSeconds : ℤ) :
    ℕ → Db → List (Except (Abort StoreError) (Option DeliveryRecord)) × Db
  | 0, db => ([], db)
  | n + 1, db =>
    let first := transact (claimDue t [] queueName leaseSeconds) db
    let rest := claimsInSequence t queueName leaseSeconds n first.2
    (first.1 :: rest.1, rest.2)

/-- A row that has been claimed is neither due nor exhausted at the same time. -/
theorem DeliveryRow.not_expired_of_claimed (hlease : 1 ≤ leaseSeconds) (t : Timestamptz)
    (queueName : String) (row : DeliveryRow) :
    (row.assign (claimAssignment t leaseSeconds row)).isExpired t queueName = false ∧
      (row.assign (claimAssignment t leaseSeconds row)).isWaiting t = false := by
  have hpos : 0 < leaseSeconds * 1000000 := by omega
  have hlt : t < t + seconds leaseSeconds := Int.lt_add_of_pos_right t hpos
  refine ⟨?_, rfl⟩
  simp only [DeliveryRow.isExpired, DeliveryRow.leaseExpired, DeliveryRow.assign_leaseExpiresAt,
    claimAssignment, Option.any_some, decide_eq_false (not_le.mpr hlt), Bool.and_false]

theorem DeliveryRow.not_expired_of_retired (t : Timestamptz) (queueName : String)
    (row : DeliveryRow) :
    (row.assign (retireAssignment t row)).isExpired t queueName = false ∧
      (row.assign (retireAssignment t row)).isWaiting t = false := by
  refine ⟨?_, rfl⟩
  simp only [DeliveryRow.isExpired, DeliveryRow.assign_status, retireAssignment]
  simp

theorem DeliveryRow.not_due_of_not_expired {row : DeliveryRow}
    (h : row.isExpired t queueName = false ∧ row.isWaiting t = false) :
    row.isDue t queueName = false ∧ row.isExhausted t queueName = false := by
  constructor
  · rw [Bool.eq_false_iff]
    intro hdue
    obtain ⟨-, -, hwaiting | hexpired⟩ := DeliveryRow.isDue_iff.mp hdue
    · simp [h.2] at hwaiting
    · simp [h.1] at hexpired
  · simp [DeliveryRow.isExhausted, h.1]

section Claim

variable (hlease : 1 ≤ leaseSeconds)
  (hd : db'.deliveries = db.deliveries.map (db.afterClaim t [] queueName leaseSeconds))
include hlease hd

/-- A claim takes the candidate out of the due rows. -/
theorem Db.due_afterClaim :
    db'.due t queueName
      = (db.due t queueName).filter fun row => db.candidate t [] queueName ≠ some row := by
  rw [Db.due, hd]
  refine KeyedTable.filter_map_update ?_ ?_
  · intro row hrow
    rcases Db.afterClaim_cases t [] queueName leaseSeconds hrow with
      ⟨hc, h⟩ | ⟨hc, hexpired, hlast, h⟩ | ⟨hc, -, h⟩
    · rw [h, (DeliveryRow.not_due_of_not_expired
        (DeliveryRow.not_expired_of_claimed hlease t queueName row)).1]
      simp [hc]
    · have hnot : row.isDue t queueName = false := by
        rw [Bool.eq_false_iff]
        intro hdue
        have := (DeliveryRow.isDue_iff.mp hdue).2.1
        omega
      rw [h, (DeliveryRow.not_due_of_not_expired
        (DeliveryRow.not_expired_of_retired t queueName row)).1, hnot, Bool.false_and]
    · rw [h]
      simp [hc]
  · intro row hrow hdue hother
    refine Db.afterClaim_of_other hrow ?_ (by simpa using hother)
    intro _
    exact (DeliveryRow.isDue_iff.mp hdue).2.1

/-- A claim takes its batch out of the exhausted rows. -/
theorem Db.exhausted_afterClaim :
    db'.exhausted t queueName
      = (db.exhausted t queueName).filter fun row => row ∉ db.expired t [] queueName := by
  rw [Db.exhausted, hd]
  refine KeyedTable.filter_map_update ?_ ?_
  · intro row hrow
    rcases Db.afterClaim_cases t [] queueName leaseSeconds hrow with
      ⟨hc, h⟩ | ⟨hc, hexpired, hlast, h⟩ | ⟨hc, hnot, h⟩
    · have hleft := (Db.candidate_eq_some hc).2.2.1
      have hnot : row.isExhausted t queueName = false := by
        rw [Bool.eq_false_iff]
        intro hexhausted
        have := (DeliveryRow.isExhausted_iff.mp hexhausted).2
        omega
      rw [h, (DeliveryRow.not_due_of_not_expired
        (DeliveryRow.not_expired_of_claimed hlease t queueName row)).2, hnot, Bool.false_and]
    · rw [h, (DeliveryRow.not_due_of_not_expired
        (DeliveryRow.not_expired_of_retired t queueName row)).2]
      simp [hexpired]
    · rw [h]
      by_cases hexhausted : row.isExhausted t queueName
      · have hlast := (DeliveryRow.isExhausted_iff.mp hexhausted).2
        have hout : row ∉ db.expired t [] queueName := fun he => hnot ⟨he, hlast⟩
        simp [hout]
      · simp [hexhausted]
  · intro row hrow hexhausted hout
    have hlast := (DeliveryRow.isExhausted_iff.mp hexhausted).2
    refine Db.afterClaim_of_other hrow ?_ ?_
    · intro he
      simp [he] at hout
    · intro hc
      have := (Db.candidate_eq_some hc).2.2.1
      omega

/-- The due rows are the row that is claimed and those that are due afterwards. -/
theorem Db.perm_due_afterClaim :
    (db.due t queueName).Perm ((db.candidate t [] queueName).toList ++ db'.due t queueName) := by
  rw [Db.due_afterClaim hlease hd]
  cases hc : db.candidate t [] queueName with
  | none => simp
  | some row =>
    have hnodup : (db.due t queueName).Nodup := db.nodup_deliveries.filter _
    have hmem : row ∈ db.due t queueName := by
      obtain ⟨hrow, hdue, -⟩ := Db.claimable_iff.mp (Db.candidate_eq_some hc)
      exact Db.mem_due.mpr ⟨hrow, hdue⟩
    have herase : (db.due t queueName).filter (fun other => some row ≠ some other)
        = (db.due t queueName).erase row := by
      rw [hnodup.erase_eq_filter]
      refine List.filter_congr ?_
      intro other _
      by_cases hsame : row = other <;> simp [hsame, bne, Ne.symm]
    rw [herase]
    exact List.perm_cons_erase hmem

/-- A claim that finds nothing retires its whole batch. -/
theorem Db.length_exhausted_afterClaim (hnone : db.candidate t [] queueName = none) :
    (db.exhausted t queueName).length
      = (db.expired t [] queueName).length + (db'.exhausted t queueName).length := by
  have hbatch : ((db.exhausted t queueName).filter fun row => row ∈ db.expired t [] queueName).Perm
      (db.expired t [] queueName) := by
    refine (List.perm_ext_iff_of_nodup ((db.nodup_deliveries.filter _).filter _)
      Db.nodup_expired.of_map).mpr ?_
    intro row
    rw [List.mem_filter, decide_eq_true_eq]
    refine ⟨And.right, fun h => ⟨?_, h⟩⟩
    exact Db.mem_exhausted.mpr
      ⟨(Db.mem_expired h).1, Db.exhausted_of_candidate_eq_none hnone h⟩
  rw [Db.exhausted_afterClaim hlease hd, ← hbatch.length_eq]
  simpa using List.length_eq_length_filter_add (l := db.exhausted t queueName)
    fun row => decide (row ∈ db.expired t [] queueName)

/-- **Each claim brings the backlog down.** -/
theorem Db.backlog_afterClaim : db'.backlog t queueName ≤ db.backlog t queueName - 1 := by
  have hperm := (Db.perm_due_afterClaim hlease hd).length_eq
  rw [List.length_append] at hperm
  rw [Db.backlog, Db.backlog]
  cases hc : db.candidate t [] queueName with
  | some row =>
    -- one due row less, and not more exhausted rows
    have hle : (db'.exhausted t queueName).length ≤ (db.exhausted t queueName).length := by
      rw [Db.exhausted_afterClaim hlease hd]
      exact List.length_filter_le _ _
    rw [hc, Option.toList_some, List.length_singleton] at hperm
    omega
  | none =>
    have hlen := Db.length_exhausted_afterClaim hlease hd hc
    rw [hc, Option.toList_none, List.length_nil] at hperm
    by_cases hdue : db.due t queueName = []
    · -- nothing is due, so a batch that is not full is all that is exhausted
      by_cases hfull : (db.expired t [] queueName).length = 64
      · omega
      · have hnil : db'.exhausted t queueName = [] := by
          rw [Db.exhausted_afterClaim hlease hd, List.filter_eq_nil_iff]
          intro row hrow hout
          obtain ⟨hrow, hexhausted⟩ := Db.mem_exhausted.mp hrow
          exact hfull (Db.length_expired_of_notMem hrow
            (DeliveryRow.isExhausted_iff.mp hexhausted).1 (by simpa using hout))
        rw [hnil, List.length_nil]
        rw [hdue, List.length_nil] at hperm ⊢
        omega
    · -- a row is due and out of sight, so the batch is full
      obtain ⟨row, hrow⟩ := List.exists_mem_of_ne_nil _ hdue
      have hfull := Db.length_expired_of_candidate_eq_none hc hrow
      omega

end Claim

/-! ### Draining -/

/-- The row was retired at `t`, and there is a receipt for its last attempt. -/
def Db.Retired (db : Db) (t : Timestamptz) (row : DeliveryRow) : Prop :=
  db.delivery row.deliveryId = some (row.assign (retireAssignment t row)) ∧
    ∃ a, db.receipt row.deliveryId row.replayCount row.attempts = some a

/-- The exhausted rows of the batch are retired, with their receipts. -/
theorem Db.retired_afterClaim
    (hd : db'.deliveries = db.deliveries.map (db.afterClaim t [] queueName leaseSeconds))
    (ha : db'.attempts = KeyedTable.insertAll AttemptRow.key
      ((db.expired t [] queueName).map (leaseExpiredReceipt t)) db.attempts)
    {row : DeliveryRow} (hrow : row ∈ db.expired t [] queueName)
    (hlast : row.maxAttempts ≤ row.attempts) : db'.Retired t row := by
  refine ⟨Db.delivery_of_retired hd hrow hlast, ?_⟩
  have hkey : (leaseExpiredReceipt t row).key ∈ db'.attempts.map AttemptRow.key := by
    rw [ha]
    exact KeyedTable.key_mem_insertAll (List.mem_map_of_mem hrow)
  obtain ⟨a, hmem, hkey⟩ := List.mem_map.mp hkey
  exact ⟨a, Db.receipt_eq_some_iff.mpr ⟨hmem, hkey⟩⟩

/-- A later claim leaves it so. -/
theorem Db.Retired.afterClaim
    (hd : db'.deliveries = db.deliveries.map (db.afterClaim t [] queueName leaseSeconds))
    (ha : db'.attempts = KeyedTable.insertAll AttemptRow.key
      ((db.expired t [] queueName).map (leaseExpiredReceipt t)) db.attempts)
    {row : DeliveryRow} (h : db.Retired t row) : db'.Retired t row := by
  obtain ⟨hrow, a, hreceipt⟩ := h
  obtain ⟨hmem, -⟩ := Db.delivery_eq_some_iff.mp hrow
  have hnot := DeliveryRow.not_expired_of_retired t queueName row
  have hsame : db.afterClaim t [] queueName leaseSeconds (row.assign (retireAssignment t row))
      = row.assign (retireAssignment t row) := by
    refine Db.afterClaim_of_other hmem ?_ ?_
    · intro he
      have hexpired := (Db.mem_expired he).2.1
      rw [hnot.1] at hexpired
      exact nomatch hexpired
    · intro hc
      have hdue := (Db.claimable_iff.mp (Db.candidate_eq_some hc)).2.1
      rw [(DeliveryRow.not_due_of_not_expired hnot).1] at hdue
      exact nomatch hdue
  refine ⟨?_, a, ?_⟩
  · rw [Db.delivery_of_map hd Db.afterClaim_deliveryId, hrow, Option.map_some, hsame]
  · obtain ⟨hmem, hkey⟩ := Db.receipt_eq_some_iff.mp hreceipt
    refine Db.receipt_eq_some_iff.mpr ⟨?_, hkey⟩
    rw [ha]
    exact KeyedTable.mem_insertAll_of_mem hmem

theorem Db.of_backlog_eq_zero (h : db.backlog t queueName = 0) :
    db.due t queueName = [] ∧ db.exhausted t queueName = [] := by
  rw [Db.backlog] at h
  exact ⟨List.length_eq_zero_iff.mp (by omega), List.length_eq_zero_iff.mp (by omega)⟩

/-- Without a backlog a claim finds nothing and changes nothing. -/
theorem claimDue_of_backlog_eq_zero (hlease : 1 ≤ leaseSeconds ∧ leaseSeconds ≤ 3600)
    (hstarted : db.Started) (h : db.backlog t queueName = 0) :
    transact (claimDue t [] queueName leaseSeconds) db = (.ok none, db) := by
  obtain ⟨hdue, hexhausted⟩ := Db.of_backlog_eq_zero h
  have hnone : db.candidate t [] queueName = none := by
    refine Db.candidate_eq_none_iff.mpr ?_
    intro row hrow
    obtain ⟨hmem, hrowDue, -⟩ := Db.claimable_iff.mp hrow
    have hmem := Db.mem_due.mpr ⟨hmem, hrowDue⟩
    rw [hdue] at hmem
    exact nomatch hmem
  have hempty : db.expired t [] queueName = [] := by
    rw [List.eq_nil_iff_forall_not_mem]
    intro row hrow
    have hmem := Db.mem_exhausted.mpr
      ⟨(Db.mem_expired hrow).1, Db.exhausted_of_candidate_eq_none hnone hrow⟩
    rw [hexhausted] at hmem
    exact nomatch hmem
  obtain ⟨db', hok, hd, ha⟩ := claimDue_of_started hlease hstarted t queueName
  have hsame : db.deliveries.map (db.afterClaim t [] queueName leaseSeconds) = db.deliveries := by
    conv_rhs => rw [← List.map_id db.deliveries]
    refine List.map_congr_left ?_
    intro row hrow
    refine Db.afterClaim_of_other hrow ?_ (by simp [hnone])
    intro he
    rw [hempty] at he
    exact nomatch he
  have heq : db' = db := Db.ext (hd.trans hsame) (by rw [ha, hempty]; rfl)
  rw [hok, hnone, heq]
  rfl

/-- The ids of the deliveries that were claimed, in order. -/
def claimedIds (claimed : List (Option DeliveryRecord)) : List String :=
  claimed.filterMap fun record => record.map DeliveryRecord.deliveryId

/-- **As many claims as the backlog needs.** -/
theorem claimsInSequence_spec (t : Timestamptz) (queueName : String)
    (hlease : 1 ≤ leaseSeconds ∧ leaseSeconds ≤ 3600) {n : ℕ} {db : Db} (hstarted : db.Started)
    (hn : db.backlog t queueName ≤ n) :
    ∃ claimed db', claimsInSequence t queueName leaseSeconds n db = (claimed.map .ok, db') ∧
      (claimedIds claimed).Perm ((db.due t queueName).map DeliveryRow.deliveryId) ∧
      (∀ row, row ∈ db.exhausted t queueName ∨ db.Retired t row → db'.Retired t row) ∧
      db'.Started ∧ db'.backlog t queueName = 0 := by
  induction n generalizing db with
  | zero =>
    have hzero : db.backlog t queueName = 0 := by omega
    obtain ⟨hdue, hexhausted⟩ := Db.of_backlog_eq_zero hzero
    refine ⟨[], db, rfl, by rw [hdue]; rfl, ?_, hstarted, hzero⟩
    intro row hrow
    rw [hexhausted] at hrow
    exact hrow.resolve_left List.not_mem_nil
  | succ n ih =>
    obtain ⟨db₁, hok, hd, ha⟩ := claimDue_of_started hlease hstarted t queueName
    have hless := Db.backlog_afterClaim hlease.1 hd
    obtain ⟨claimed, db', hrest, hperm, hretired, hstarted', hzero⟩ :=
      ih (hstarted.afterClaim hd) (by omega)
    refine ⟨(db.candidate t [] queueName).map (fun row =>
      decodeDelivery (row.assign (claimAssignment t leaseSeconds row))) :: claimed, db', ?_, ?_, ?_,
      hstarted', hzero⟩
    · simp only [claimsInSequence, hok, hrest, List.map_cons]
    · have hdue := (Db.perm_due_afterClaim hlease.1 hd).map DeliveryRow.deliveryId
      rw [List.map_append] at hdue
      refine List.Perm.trans ?_ hdue.symm
      cases hc : db.candidate t [] queueName with
      | none => exact hperm
      | some row => exact hperm.cons _
    · intro row hrow
      refine hretired row ?_
      rcases hrow with hrow | hrow
      · by_cases hbatch : row ∈ db.expired t [] queueName
        · have hlast := (DeliveryRow.isExhausted_iff.mp (Db.mem_exhausted.mp hrow).2).2
          exact .inr (Db.retired_afterClaim hd ha hbatch hlast)
        · refine .inl ?_
          rw [Db.exhausted_afterClaim hlease.1 hd, List.mem_filter]
          exact ⟨hrow, by simpa using hbatch⟩
      · exact .inr (hrow.afterClaim hd ha)

/-- A row whose time has come, and that is not at its end, is due or exhausted. -/
theorem DeliveryRow.Sound.due_or_exhausted {row : DeliveryRow} (h : row.Sound)
    (havailable : row.availableAt ≤ t) (hexpired : ∀ lease ∈ row.leaseExpiresAt, lease ≤ t)
    (hdelivered : row.status ≠ .delivered) (hdead : row.status ≠ .deadLetter) :
    row.isDue t row.queueName ∨ row.isExhausted t row.queueName := by
  cases hs : row.status with
  | queued =>
    exact .inl (DeliveryRow.isDue_iff.mpr ⟨rfl, h.attempts_lt (.inl hs),
      .inl (DeliveryRow.isWaiting_iff.mpr ⟨.inl hs, havailable⟩)⟩)
  | retryScheduled =>
    exact .inl (DeliveryRow.isDue_iff.mpr ⟨rfl, h.attempts_lt (.inr hs),
      .inl (DeliveryRow.isWaiting_iff.mpr ⟨.inr hs, havailable⟩)⟩)
  | delivering =>
    obtain ⟨lease, hlease⟩ := Option.isSome_iff_exists.mp (h.lease.mp hs)
    have hrow : row.isExpired t row.queueName := DeliveryRow.isExpired_iff.mpr
      ⟨rfl, hs, DeliveryRow.leaseExpired_iff.mpr ⟨lease, hlease, hexpired lease hlease⟩⟩
    rcases lt_or_ge row.attempts row.maxAttempts with hleft | hlast
    · exact .inl (DeliveryRow.isDue_iff.mpr ⟨rfl, hleft, .inr hrow⟩)
    · exact .inr (DeliveryRow.isExhausted_iff.mpr ⟨hrow, hlast⟩)
  | delivered => exact absurd hs hdelivered
  | deadLetter => exact absurd hs hdead

/-- **A backlog of any size drains.** -/
theorem backlog_drains (P : Platform) {s : Sys P} (hs : (system P).Reachable s) (t : Timestamptz)
    (queueName : String) {leaseSeconds : ℤ} (hlease : 1 ≤ leaseSeconds ∧ leaseSeconds ≤ 3600) :
    ∃ claimed db', claimsInSequence t queueName leaseSeconds
        ((s.db.due t queueName).length + ((s.db.exhausted t queueName).length + 63) / 64) s.db
        = (claimed.map .ok, db') ∧
      (claimedIds claimed).Perm ((s.db.due t queueName).map DeliveryRow.deliveryId) ∧
      (∀ row ∈ s.db.exhausted t queueName, db'.Retired t row) ∧
      transact (claimDue t [] queueName leaseSeconds) db' = (.ok none, db') ∧
      ((∀ row ∈ s.db.deliveries, row.queueName = queueName →
          row.availableAt ≤ t ∧ ∀ lease ∈ row.leaseExpiresAt, lease ≤ t) →
        ∀ row ∈ s.db.deliveries, row.queueName = queueName → row.status ≠ .delivered →
          row.status ≠ .deadLetter →
          row.deliveryId ∈ claimedIds claimed ∨ db'.Retired t row) := by
  have hinv := reachable_inv hs
  obtain ⟨claimed, db', hrun, hperm, hretired, hstarted, hzero⟩ :=
    claimsInSequence_spec t queueName hlease hinv.started le_rfl
  refine ⟨claimed, db', hrun, hperm, fun row hrow => hretired row (.inl hrow),
    claimDue_of_backlog_eq_zero hlease hstarted hzero, ?_⟩
  intro htime row hrow hqueue hdelivered hdead
  obtain ⟨havailable, hexpired⟩ := htime row hrow hqueue
  have hsound := (hinv.sound _ _ (Db.life_of_mem hrow)).row
  subst hqueue
  rcases hsound.due_or_exhausted havailable hexpired hdelivered hdead with hdue | hexhausted
  · exact .inl (hperm.mem_iff.mpr (List.mem_map_of_mem (Db.mem_due.mpr ⟨hrow, hdue⟩)))
  · exact .inr (hretired row (.inl (Db.mem_exhausted.mpr ⟨hrow, hexhausted⟩)))

/-- The backlog of that state drains in two claims. -/
theorem backlog_drains_batch :
    ∃ (s : Sys reference) (claimed : List (Option DeliveryRecord)) (db' : Db),
      (system reference).Reachable s ∧
      claimsInSequence 60000000 "webhooks" 30 ((s.db.due 60000000 "webhooks").length
        + ((s.db.exhausted 60000000 "webhooks").length + 63) / 64) s.db
        = (claimed.map .ok, db') ∧
      firstOrder.delivery.deliveryId ∈ claimedIds claimed ∧
      (∃ row ∈ s.db.exhausted 60000000 "webhooks", db'.Retired 60000000 row) ∧
      transact (claimDue 60000000 [] "webhooks" 30) db' = (.ok none, db') := by
  obtain ⟨s, batch, hs, hd, hlength, hbatch⟩ := exists_exhausted_batch
  obtain ⟨hdue, -⟩ := due_and_not_candidate hd hlength hbatch
  have hlease : (1 : ℤ) ≤ 30 ∧ (30 : ℤ) ≤ 3600 := by decide
  obtain ⟨claimed, db', hrun, hperm, hretired, hidle, -⟩ :=
    backlog_drains reference hs 60000000 "webhooks" hlease
  obtain ⟨row, hrow⟩ : ∃ row, row ∈ batch :=
    List.exists_mem_of_ne_nil _ (List.ne_nil_of_length_pos (by omega))
  have hexhausted : row ∈ s.db.exhausted 60000000 "webhooks" := by
    refine Db.mem_exhausted.mpr ⟨?_, (hbatch row hrow).1⟩
    rw [hd]
    exact List.mem_append_left _ hrow
  exact ⟨s, claimed, db', hs, hrun, hperm.mem_iff.mpr (List.mem_map_of_mem hdue),
    ⟨row, hexhausted, hretired row hexhausted⟩, hidle⟩

end OutboundWebhook
