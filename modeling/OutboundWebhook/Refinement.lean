import OutboundWebhook.StorageLaws
import OutboundWebhook.System

/-!
# Every step is a move of each delivery

The transactions of `Storage` refine the lives of `Lifecycle`: whatever a step of the system does,
a delivery that exists makes one move or none, and a delivery that begins to exist is newborn
(`Writes.refines`). The claim's statement with its batch of rows is many moves at once, one for
each delivery it touches.

## The system invariant

`Sys.Inv` adds two things to the soundness of every life. Each delivery's content was built by
some `newDelivery`, and each delivery a worker is busy with is `Known`: the record it was handed
agrees with the row in all that never changes, and the row has not gone back behind it.

## Main results

* `Writes.refines` — one step, seen from each delivery
* `Step.inv`, `reachable_inv` — the invariant of every reachable state
* `Path.evolves` — what a whole run keeps of a delivery
-/

namespace OutboundWebhook

variable {P : Platform}

/-! ### New deliveries -/

/-- A delivery that has passed the checks of an enqueue. -/
structure Enqueued (plugin : OutboundWebhookPlugin P) (request : EnqueueRequest)
    (delivery : NewDelivery) : Prop where
  eventName : validEventName request.eventId
  typeName : validEventName request.eventType
  deliveryId :
    delivery.deliveryId = stableDeliveryId P plugin.config.endpointUrl request.eventId
  eventId : delivery.eventId = request.eventId
  eventType : delivery.eventType = request.eventType
  endpointUrl : delivery.endpointUrl = plugin.config.endpointUrl
  endpointOrigin : ∃ endpoint, fixedEndpoint P plugin.config.endpointUrl = .ok endpoint ∧
    delivery.endpointOrigin = endpoint.originAscii
  payloadSnapshot : delivery.payloadSnapshot = OutboundWebhook.payloadSnapshot request
  payloadSha256 : delivery.payloadSha256 = sha256Hex P delivery.payloadSnapshot
  queueName : delivery.queueName = plugin.config.queueName
  maxAttempts : delivery.maxAttempts = plugin.config.maxAttempts

theorem enqueued_of_newDelivery {plugin : OutboundWebhookPlugin P} {caller : Option String}
    {now : OffsetDateTime} {request : EnqueueRequest} {delivery : NewDelivery}
    (h : newDelivery plugin caller now request = .ok delivery) :
    Enqueued plugin request delivery := by
  unfold newDelivery at h
  split at h
  · exact nomatch h
  split at h
  · exact nomatch h
  rename_i hnames
  split at h
  · exact nomatch h
  rename_i prepared hprepared
  generalize hsnapshot : OutboundWebhook.payloadSnapshot request = snapshot at h
  dsimp only at h
  split at h
  · exact nomatch h
  rw [Except.ok.injEq] at h
  subst h
  simp only [Bool.or_eq_true, Bool.not_eq_true', not_or, Bool.not_eq_false] at hnames
  exact ⟨hnames.1, hnames.2, rfl, rfl, rfl, rfl,
    ⟨prepared.endpoint, prepared.endpoint_eq, prepared.endpointOrigin_eq⟩, hsnapshot.symm, rfl, rfl,
    rfl⟩

theorem Enqueued.maxAttempts_bounds {plugin : OutboundWebhookPlugin P} {request : EnqueueRequest}
    {delivery : NewDelivery} (h : Enqueued plugin request delivery) :
    1 ≤ delivery.maxAttempts ∧ delivery.maxAttempts ≤ 100 := by
  rw [h.maxAttempts]
  exact plugin.valid.maxAttempts

theorem OutboundWebhookPlugin.fits_leaseSeconds (plugin : OutboundWebhookPlugin P) :
    FitsI32 plugin.config.leaseSeconds := by
  have := plugin.valid.leaseSeconds
  exact ⟨by omega, by omega⟩

variable (P) in
/-- A life that has just begun. -/
def Life.Newborn (l : Life) : Prop :=
  ∃ (plugin : OutboundWebhookPlugin P) (request : EnqueueRequest) (delivery : NewDelivery)
    (begins : Timestamptz),
    Enqueued plugin request delivery ∧ l = ⟨delivery.toRow begins, []⟩

theorem Life.Newborn.sound {l : Life} (h : l.Newborn P) : l.Sound := by
  obtain ⟨plugin, request, delivery, begins, hnew, rfl⟩ := h
  exact ⟨delivery.toRow_sound begins hnew.maxAttempts_bounds, 0, .inl rfl, Numbered.nil _⟩

variable (P) in
/-- The content was built by some enqueue. -/
def Content.Authentic (content : Content) : Prop :=
  ∃ (plugin : OutboundWebhookPlugin P) (request : EnqueueRequest) (delivery : NewDelivery),
    Enqueued plugin request delivery ∧ content = (delivery.toRow 0).content

theorem Life.Newborn.authentic {l : Life} (h : l.Newborn P) : l.row.content.Authentic P := by
  obtain ⟨plugin, request, delivery, begins, hnew, rfl⟩ := h
  exact ⟨plugin, request, delivery, hnew, rfl⟩

/-! ### What a delivery keeps -/

/-- What every move keeps, and every run. -/
structure Life.Evolves (l l' : Life) : Prop where
  content : l'.row.content = l.row.content
  receipts : l.receipts <+: l'.receipts
  progress : l'.row.number = l.row.number ∨ Before l.row.number l'.row.number
  /-- The end of a delivery. -/
  delivered : l.row.status = .delivered → l' = l

theorem Life.Evolves.refl (l : Life) : l.Evolves l :=
  ⟨rfl, List.prefix_rfl, .inl rfl, fun _ => rfl⟩

theorem Life.Evolves.trans {l l' l'' : Life} (h : l.Evolves l') (h' : l'.Evolves l'') :
    l.Evolves l'' where
  content := h'.content.trans h.content
  receipts := h.receipts.trans h'.receipts
  progress := by
    rcases h.progress with heq | hlt
    · rw [← heq]
      exact h'.progress
    · rcases h'.progress with heq' | hlt'
      · rw [heq']
        exact .inr hlt
      · exact .inr (hlt.trans hlt')
  delivered hs := by
    have heq := h.delivered hs
    rw [← heq] at hs
    rw [h'.delivered hs, heq]

theorem Life.Step.not_delivered {l l' : Life} (h : Step l l') : l.row.status ≠ .delivered := by
  intro hs
  have hmay := h.mayBecome
  rw [hs] at hmay
  cases l'.row.status <;> simp [DeliveryStatus.mayBecome] at hmay

theorem Life.Step.evolves {l l' : Life} (h : Step l l') : l.Evolves l' :=
  ⟨h.content, h.receipts_prefix, h.progress, fun hs => absurd hs h.not_delivered⟩

/-- Every delivery of the first tables is in the second, and has evolved. -/
def Db.Evolves (db db' : Db) : Prop :=
  ∀ id l, db.life id = some l → ∃ l', db'.life id = some l' ∧ l.Evolves l'

theorem Db.Evolves.refl (db : Db) : db.Evolves db := fun _ l hl => ⟨l, hl, .refl l⟩

theorem Db.Evolves.trans {db db' db'' : Db} (h : db.Evolves db') (h' : db'.Evolves db'') :
    db.Evolves db'' := by
  intro id l hl
  obtain ⟨l', hl', he⟩ := h id l hl
  obtain ⟨l'', hl'', he'⟩ := h' id l' hl'
  exact ⟨l'', hl'', he.trans he'⟩

/-! ### The invariant -/

/-- A record a worker was handed, against the tables as they are now. -/
structure Known (db : Db) (delivery : DeliveryRecord) : Prop where
  row : ∃ row, db.delivery delivery.deliveryId = some row ∧ row.content = delivery.content ∧
    (row.number = delivery.number ∨ Before delivery.number row.number)
  attempts : 1 ≤ delivery.attempts ∧ delivery.attempts ≤ delivery.maxAttempts
  maxAttempts : delivery.maxAttempts ≤ 100
  replayCount : 0 ≤ delivery.replayCount ∧ delivery.replayCount ≤ 1000000

structure Sys.Inv (s : Sys P) : Prop where
  sound : ∀ id l, s.db.life id = some l → l.Sound
  authentic : ∀ id l, s.db.life id = some l → l.row.content.Authentic P
  known : ∀ p ∈ s.pending, ∀ delivery, p.task.dispatched = some delivery → Known s.db delivery

theorem Known.evolves {db db' : Db} {delivery : DeliveryRecord} (h : Known db delivery)
    (he : db.Evolves db') : Known db' delivery where
  row := by
    obtain ⟨row, hrow, hcontent, hnumber⟩ := h.row
    obtain ⟨l', hl', hl⟩ := he _ _ (Db.life_of_delivery hrow)
    refine ⟨l'.row, (Db.life_eq_some_iff.mp hl').1, hl.content.trans hcontent, ?_⟩
    rcases hnumber with heq | hlt
    · rw [← heq]
      exact hl.progress
    · rcases hl.progress with heq' | hlt'
      · rw [heq']
        exact .inr hlt
      · exact .inr (hlt.trans hlt')
  attempts := h.attempts
  maxAttempts := h.maxAttempts
  replayCount := h.replayCount

theorem Sys.Inv.started {s : Sys P} (hinv : s.Inv) :
    ∀ row ∈ s.db.deliveries, row.status = .delivering → 1 ≤ row.attempts := by
  intro row hrow hstatus
  have hsound := hinv.sound _ _ (Db.life_of_mem hrow)
  exact (hsound.row.started (.inl hstatus)).1

/-- A claim from a state that satisfies the invariant. -/
theorem Sys.Inv.claim {s : Sys P} (hinv : s.Inv) (plugin : OutboundWebhookPlugin P)
    (begins : Timestamptz) (locked : List String) :
    ∃ db', transact (claimDue begins locked plugin.config.queueName plugin.config.leaseSeconds) s.db
        = (.ok ((s.db.candidate begins locked plugin.config.queueName).map fun row =>
            decodeDelivery (row.assign (claimAssignment begins plugin.config.leaseSeconds row))),
          db') ∧
      db'.deliveries = s.db.deliveries.map
        (s.db.afterClaim begins locked plugin.config.queueName plugin.config.leaseSeconds) ∧
      db'.attempts = KeyedTable.insertAll AttemptRow.key
        ((s.db.expired begins locked plugin.config.queueName).map (leaseExpiredReceipt begins))
        s.db.attempts := by
  obtain ⟨db', hok, hd, ha⟩ := claimDue_eq_ok begins locked plugin.config.queueName
    plugin.fits_leaseSeconds hinv.started
  exact ⟨db', transact_of_eq_ok hok, hd, ha⟩

/-- The row an outcome's fence holds for is the one its worker has claimed. -/
theorem Sys.Inv.fenced {s : Sys P} (hinv : s.Inv) {p : Pending P} {delivery : DeliveryRecord}
    {call : OutcomeCall} {begins : Timestamptz} (hp : p ∈ s.pending)
    (hdelivery : p.task.dispatched = some delivery) (hfor : call.For delivery) {row : DeliveryRow}
    (hrow : row ∈ s.db.deliveries)
    (hfenced : row.isFenced begins call.deliveryId call.replayCount call.receipt.attempt) :
    row.content = delivery.content ∧ row.number = delivery.number := by
  obtain ⟨hid, hnumber, -⟩ := DeliveryRow.isFenced_iff.mp hfenced
  obtain ⟨row', hrow', hcontent, -⟩ := (hinv.known p hp delivery hdelivery).row
  rw [← hfor.deliveryId, ← hid, Db.delivery_of_mem hrow, Option.some.injEq] at hrow'
  subst hrow'
  refine ⟨hcontent, ?_⟩
  rw [hnumber, hfor.replayCount, hfor.attempt]
  rfl

/-! ### One step, seen from one delivery -/

/-- What a transaction does to the life of the delivery `id`, and what it says about it. -/
inductive Observed (begins : Timestamptz) (id : String) : Option Stored → Life → Life → Prop
  /-- Nothing is done, and nothing is said. -/
  | still {stored : Option Stored} {l : Life} (hclaim : stored.bind (Stored.claimOf id) = none)
      (houtcome : stored.bind (Stored.outcomeOf id) = none)
      (hreplay : stored.bind (Stored.replayOf id) = none) : Observed begins id stored l l
  /-- A claim that returns another delivery, or none, notes that the lease has expired. -/
  | expired {queueName : String} {result : Option DeliveryRecord} {l : Life}
      (hother : (Stored.claim queueName (.ok result)).claimOf id = none)
      (hexpired : l.row.isExpired begins queueName)
      (hleft : l.row.attempts < l.row.maxAttempts) :
      Observed begins id (some (.claim queueName (.ok result))) l
        ⟨l.row, l.receipted (leaseExpiredReceipt begins l.row)⟩
  /-- Such a claim retires the delivery. -/
  | retired {queueName : String} {result : Option DeliveryRecord} {l : Life}
      (hother : (Stored.claim queueName (.ok result)).claimOf id = none)
      (hexpired : l.row.isExpired begins queueName)
      (hlast : l.row.maxAttempts ≤ l.row.attempts) :
      Observed begins id (some (.claim queueName (.ok result))) l
        ⟨l.row.assign (retireAssignment begins l.row),
          l.receipted (leaseExpiredReceipt begins l.row)⟩
  /-- A claim returns the delivery, which was waiting. -/
  | claimed {queueName : String} {l : Life} (leaseSeconds : ℤ)
      (hwaiting : l.row.isWaiting begins) (hleft : l.row.attempts < l.row.maxAttempts) :
      Observed begins id
        (some (.claim queueName
          (.ok (some (decodeDelivery (l.row.assign (claimAssignment begins leaseSeconds l.row)))))))
        l ⟨l.row.assign (claimAssignment begins leaseSeconds l.row), l.receipts⟩
  /-- A claim returns the delivery, whose lease had expired. -/
  | reclaimed {queueName : String} {l : Life} (leaseSeconds : ℤ)
      (hexpired : l.row.isExpired begins queueName)
      (hleft : l.row.attempts < l.row.maxAttempts) :
      Observed begins id
        (some (.claim queueName
          (.ok (some (decodeDelivery (l.row.assign (claimAssignment begins leaseSeconds l.row)))))))
        l ⟨l.row.assign (claimAssignment begins leaseSeconds l.row),
          l.receipted (leaseExpiredReceipt begins l.row)⟩
  /-- An outcome is committed. -/
  | recorded {call : OutcomeCall} {l : Life} (hid : call.deliveryId = id)
      (hfenced : l.row.isFenced begins id call.replayCount call.receipt.attempt)
      (hqueued : call.status ≠ .queued)
      (hretry : call.status = .retryScheduled → l.row.attempts < l.row.maxAttempts)
      (hdelivered : call.status = .delivered → call.receipt.outcome = "delivered") :
      Observed begins id (some (.outcome call (.ok ()))) l
        ⟨l.row.assign (outcomeAssignment begins call.status call.nextAvailableAt l.row),
          l.receipted (call.receipt.toRow id call.replayCount)⟩
  /-- A replay begins. -/
  | replayed {l : Life} (hreplayable : l.row.isReplayable id) :
      Observed begins id
        (some (.replay id
          (.ok (some (decodeDelivery (l.row.assign (replayAssignment begins l.row)))))))
        l ⟨l.row.assign (replayAssignment begins l.row), l.receipts⟩

theorem Observed.step {begins : Timestamptz} {id : String} {stored : Option Stored} {l l' : Life}
    (h : Observed begins id stored l l') : l' = l ∨ Life.Step l l' := by
  cases h with
  | still => exact .inl rfl
  | expired hother hexpired =>
    exact .inr (.expire begins (DeliveryRow.isExpired_iff.mp hexpired).2.1)
  | retired hother hexpired hlast =>
    exact .inr (.retire begins (DeliveryRow.isExpired_iff.mp hexpired).2.1 hlast)
  | claimed leaseSeconds hwaiting hleft =>
    exact .inr (.claim begins leaseSeconds (DeliveryRow.isWaiting_iff.mp hwaiting).1 hleft)
  | reclaimed leaseSeconds hexpired hleft =>
    exact .inr
      (.reclaim begins leaseSeconds (DeliveryRow.isExpired_iff.mp hexpired).2.1 hleft)
  | @recorded call _ hid hfenced hqueued hretry =>
    obtain ⟨-, hnumber, hstatus, -⟩ := DeliveryRow.isFenced_iff.mp hfenced
    exact .inr (.outcome begins _ call.status call.nextAvailableAt hnumber.symm hstatus hqueued
      hretry)
  | replayed hreplayable =>
    obtain ⟨-, hstatus, hcycles⟩ := DeliveryRow.isReplayable_iff.mp hreplayable
    exact .inr (.replay begins hstatus hcycles)

variable (P) in
/-- What one transaction may do to the tables, seen from each delivery. -/
structure Refines (begins : Timestamptz) (stored : Option Stored) (db db' : Db) : Prop where
  moves : ∀ id l, db.life id = some l →
    ∃ l', db'.life id = some l' ∧ Observed begins id stored l l'
  born : ∀ id l', db.life id = none → db'.life id = some l' → l'.Newborn P

theorem Refines.evolves {begins : Timestamptz} {stored : Option Stored} {db db' : Db}
    (h : Refines P begins stored db db') : db.Evolves db' := by
  intro id l hl
  obtain ⟨l', hl', hobserved⟩ := h.moves id l hl
  rcases hobserved.step with rfl | hstep
  · exact ⟨l', hl', .refl l'⟩
  · exact ⟨l', hl', hstep.evolves⟩

/-- A transaction that leaves the tables alone and says nothing. -/
theorem Refines.refl {begins : Timestamptz} {stored : Option Stored} {db : Db}
    (hclaim : ∀ id, stored.bind (Stored.claimOf id) = none)
    (houtcome : ∀ id, stored.bind (Stored.outcomeOf id) = none)
    (hreplay : ∀ id, stored.bind (Stored.replayOf id) = none) :
    Refines P begins stored db db where
  moves id l hl := ⟨l, hl, .still (hclaim id) (houtcome id) (hreplay id)⟩
  born _ _ hl hl' := absurd hl' (by simp [hl])

/-- An update of deliveries brings none to life. -/
theorem Refines.of_map {begins : Timestamptz} {stored : Option Stored} {db db' : Db}
    {f : DeliveryRow → DeliveryRow} (hd : db'.deliveries = db.deliveries.map f)
    (hf : ∀ row, (f row).deliveryId = row.deliveryId)
    (hmoves : ∀ id l, db.life id = some l →
      ∃ l', db'.life id = some l' ∧ Observed begins id stored l l') :
    Refines P begins stored db db' where
  moves := hmoves
  born id l' hl hl' := by
    have hdelivery := Db.delivery_of_map hd hf id
    rw [Db.life_eq_none_iff.mp hl, Option.map_none] at hdelivery
    rw [Db.life_eq_none_iff.mpr hdelivery] at hl'
    exact nomatch hl'

/-- The three results of `insert_or_get` for a delivery that has passed the checks. -/
theorem transact_insertOrGet {db : Db} {plugin : OutboundWebhookPlugin P} {request : EnqueueRequest}
    {delivery : NewDelivery} (hnew : Enqueued plugin request delivery) (begins : Timestamptz) :
    (∃ row ∈ db.deliveries, row.eventId = delivery.eventId ∧
      transact (insertOrGet begins delivery) db
        = (.ok (if delivery.same (decodeDelivery row) then .existing (decodeDelivery row)
            else .conflict), db)) ∨
    (∃ db', transact (insertOrGet begins delivery) db
        = (.ok (.created (decodeDelivery (delivery.toRow begins))), db') ∧
      delivery.deliveryId ∉ db.deliveries.map DeliveryRow.deliveryId ∧
      db'.deliveries = db.deliveries ++ [delivery.toRow begins] ∧ db'.attempts = db.attempts) ∨
    transact (insertOrGet begins delivery) db
      = (.error (.error (.invariant "delivery identity collision")), db) := by
  have hmax := hnew.maxAttempts_bounds
  by_cases hevent : delivery.eventId ∈ db.deliveries.map DeliveryRow.eventId
  · cases hlookup : KeyedTable.lookup DeliveryRow.eventId delivery.eventId db.deliveries with
    | none => exact absurd hevent (KeyedTable.lookup_eq_none_iff.mp hlookup)
    | some row =>
      exact .inl ⟨row, KeyedTable.mem_of_lookup hlookup, KeyedTable.key_of_lookup hlookup,
        transact_of_eq_ok (insertOrGet_of_event hmax hlookup)⟩
  · by_cases hid : delivery.deliveryId ∈ db.deliveries.map DeliveryRow.deliveryId
    · exact .inr (.inr (transact_of_eq_error (insertOrGet_of_collision hmax hid hevent)))
    · obtain ⟨db', hok, hd, ha⟩ := insertOrGet_of_free begins hmax hid hevent
      exact .inr (.inl ⟨db', transact_of_eq_ok hok, hid, hd, ha⟩)

theorem refines_of_enqueue {db : Db} {plugin : OutboundWebhookPlugin P} {request : EnqueueRequest}
    {delivery : NewDelivery} {begins : Timestamptz} (hnew : Enqueued plugin request delivery) :
    Refines P begins (some (.enqueue delivery (transact (insertOrGet begins delivery) db).1)) db
      (transact (insertOrGet begins delivery) db).2 := by
  have hmax := hnew.maxAttempts_bounds
  by_cases hevent : delivery.eventId ∈ db.deliveries.map DeliveryRow.eventId
  · cases hlookup : KeyedTable.lookup DeliveryRow.eventId delivery.eventId db.deliveries with
    | none => exact absurd hevent (KeyedTable.lookup_eq_none_iff.mp hlookup)
    | some row =>
      rw [transact_of_eq_ok (insertOrGet_of_event hmax hlookup)]
      exact .refl (fun _ => rfl) (fun _ => rfl) fun _ => rfl
  · by_cases hid : delivery.deliveryId ∈ db.deliveries.map DeliveryRow.deliveryId
    · rw [transact_of_eq_error (insertOrGet_of_collision hmax hid hevent)]
      exact .refl (fun _ => rfl) (fun _ => rfl) fun _ => rfl
    · obtain ⟨db', hok, hd, ha⟩ := insertOrGet_of_free begins hmax hid hevent
      rw [transact_of_eq_ok hok]
      have hlife := Db.life_of_insert hd ha hid
      refine ⟨fun id l hl => ⟨l, ?_, .still rfl rfl rfl⟩, ?_⟩
      · have hne : delivery.deliveryId ≠ id := by
          rintro rfl
          exact hid (Db.deliveryId_of_life hl ▸ List.mem_map_of_mem (Db.mem_of_life hl))
        rw [hlife id]
        exact (if_neg hne).trans hl
      · intro id l' hl hl'
        rw [hlife id] at hl'
        split at hl'
        · exact ⟨plugin, request, delivery, begins, hnew, (Option.some.inj hl').symm⟩
        · rw [hl] at hl'
          exact nomatch hl'

theorem refines_of_claim {s : Sys P} (hinv : s.Inv) (plugin : OutboundWebhookPlugin P)
    (begins : Timestamptz) (locked : List String) :
    Refines P begins
      (some (.claim plugin.config.queueName (transact (claimDue begins locked
        plugin.config.queueName plugin.config.leaseSeconds) s.db).1))
      s.db
      (transact (claimDue begins locked plugin.config.queueName plugin.config.leaseSeconds)
        s.db).2 := by
  obtain ⟨db', hok, hd, ha⟩ := hinv.claim plugin begins locked
  rw [hok]
  refine .of_map hd Db.afterClaim_deliveryId fun id l hl => ⟨_, Db.life_afterClaim hl hd ha, ?_⟩
  have hrow := Db.mem_of_life hl
  have hid := Db.deliveryId_of_life hl
  by_cases hcandidate : s.db.candidate begins locked plugin.config.queueName = some l.row
  · -- the delivery is the one returned
    obtain ⟨-, -, hleft, hdue, -⟩ := Db.candidate_eq_some hcandidate
    rw [Db.afterClaim_of_candidate hcandidate, hcandidate]
    by_cases hexpired : l.row ∈ s.db.expired begins locked plugin.config.queueName
    · rw [if_pos hexpired]
      exact .reclaimed _ (Db.mem_expired hexpired).2.1 hleft
    · rw [if_neg hexpired]
      exact .claimed _ (hdue.resolve_right hexpired) hleft
  · have hother : (Stored.claim plugin.config.queueName
        (.ok ((s.db.candidate begins locked plugin.config.queueName).map fun row => decodeDelivery
          (row.assign (claimAssignment begins plugin.config.leaseSeconds row))))).claimOf id
        = none := by
      cases hc : s.db.candidate begins locked plugin.config.queueName with
      | none => rfl
      | some row =>
        refine if_neg fun heq => hcandidate ?_
        rw [hc, Db.eq_of_deliveryId_eq (Db.candidate_eq_some hc).1 hrow (heq.trans hid.symm)]
    by_cases hexpired : l.row ∈ s.db.expired begins locked plugin.config.queueName
    · rw [if_pos hexpired]
      rcases le_or_gt l.row.maxAttempts l.row.attempts with hlast | hleft
      · rw [Db.afterClaim_of_exhausted hexpired hlast]
        exact .retired hother (Db.mem_expired hexpired).2.1 hlast
      · rw [Db.afterClaim_of_other hrow (fun _ => hleft) hcandidate]
        exact .expired hother (Db.mem_expired hexpired).2.1 hleft
    · rw [if_neg hexpired, Db.afterClaim_of_other hrow (fun h => absurd h hexpired) hcandidate]
      exact .still hother rfl rfl

theorem refines_of_outcome {s : Sys P} (hinv : s.Inv) {p : Pending P} {conclusion : Conclusion}
    {begins : Timestamptz} (hp : p ∈ s.pending) (houtcome : IsOutcome p.task conclusion) :
    Refines P begins
      (some (.outcome conclusion.call (transact (conclusion.call.run begins) s.db).1)) s.db
      (transact (conclusion.call.run begins) s.db).2 := by
  obtain ⟨delivery, hdelivery, hfor⟩ := houtcome.forDelivery
  cases hrun : conclusion.call.run begins s.db with
  | error e =>
    rw [transact_of_eq_error hrun]
    exact .refl (fun _ => rfl) (fun _ => rfl) fun _ => rfl
  | ok result =>
    obtain ⟨⟨⟩, db'⟩ := result
    rw [transact_of_eq_ok hrun]
    obtain ⟨-, hfenced, hd, ha⟩ := recordOutcome_ok_inv hrun
    refine .of_map hd (DeliveryRow.updated_deliveryId _ _) ?_
    intro id l hl
    refine ⟨_, Db.life_afterOutcome hl hfenced rfl hd ha, ?_⟩
    by_cases hid : conclusion.call.deliveryId = id
    · rw [if_pos hid]
      obtain ⟨row, hrow, hrowFenced⟩ := hfenced
      have hsame : row = l.row := Db.eq_of_deliveryId_eq hrow (Db.mem_of_life hl)
        (((DeliveryRow.isFenced_iff.mp hrowFenced).1.trans hid).trans
          (Db.deliveryId_of_life hl).symm)
      subst hsame
      obtain ⟨hcontent, hrecord⟩ := hinv.fenced hp hdelivery hfor hrow hrowFenced
      have hmax : l.row.maxAttempts = delivery.maxAttempts := congrArg Content.maxAttempts hcontent
      have hattempts : l.row.attempts = delivery.attempts := congrArg Prod.snd hrecord
      subst hid
      refine .recorded rfl hrowFenced hfor.notQueued ?_ hfor.delivered
      intro hretry
      rw [hmax, hattempts]
      exact hfor.retry hretry
    · rw [if_neg hid]
      exact .still rfl (if_neg hid) rfl

theorem refines_of_replay (db : Db) (deliveryId : String) (begins : Timestamptz) :
    Refines P begins (some (.replay deliveryId (transact (beginReplay begins deliveryId) db).1)) db
      (transact (beginReplay begins deliveryId) db).2 := by
  obtain ⟨db', hok, hd, ha⟩ := beginReplay_eq_ok begins deliveryId db
  rw [transact_of_eq_ok hok]
  refine .of_map hd (DeliveryRow.updated_deliveryId _ _) ?_
  intro id l hl
  refine ⟨_, Db.life_afterReplay hl hd ha, ?_⟩
  by_cases hid : deliveryId = id
  · subst hid
    rw [(Db.life_eq_some_iff.mp hl).1]
    by_cases hreplayable : l.row.isReplayable deliveryId
    · rw [if_pos hreplayable, Option.filter_some, if_pos hreplayable]
      exact .replayed hreplayable
    · rw [if_neg hreplayable, Option.filter_some, if_neg hreplayable]
      exact .still rfl rfl rfl
  · have hother : ¬l.row.isReplayable deliveryId := by
      intro h
      exact hid ((DeliveryRow.isReplayable_iff.mp h).1.symm.trans (Db.deliveryId_of_life hl))
    rw [if_neg hother]
    refine .still rfl rfl ?_
    cases (Option.map _ _ : Option DeliveryRecord) with
    | none => rfl
    | some delivery => exact if_neg hid

/-- **Every step is a move of each delivery.** -/
theorem Writes.refines {s : Sys P} (hinv : s.Inv) {begins : Timestamptz} {stored : Option Stored}
    {db' : Db} (h : Writes s begins stored db') : Refines P begins stored s.db db' := by
  cases h with
  | nothing => exact .refl (fun _ => rfl) (fun _ => rfl) fun _ => rfl
  | enqueue hnew => exact refines_of_enqueue (enqueued_of_newDelivery hnew)
  | claim plugin locked => exact refines_of_claim hinv plugin begins locked
  | outcome hp hsince houtcome => exact refines_of_outcome hinv hp houtcome
  | replay deliveryId => exact refines_of_replay s.db deliveryId begins

/-- A record that a claim has just returned. -/
theorem known_of_claim {s : Sys P} (hinv : s.Inv) {begins : Timestamptz} {queueName : String}
    {delivery : DeliveryRecord} {db' : Db}
    (h : Writes s begins (some (.claim queueName (.ok (some delivery)))) db') :
    Known db' delivery := by
  have hrefines := h.refines hinv
  obtain ⟨plugin, locked, -, hrun⟩ := h.claim_inv
  obtain ⟨db₁, hok, hd, ha⟩ := hinv.claim plugin begins locked
  rw [hok, Prod.mk.injEq, Except.ok.injEq] at hrun
  obtain ⟨hrecord, rfl⟩ := hrun
  obtain ⟨row, hcandidate, rfl⟩ := Option.map_eq_some_iff.mp hrecord
  have hlife := Db.life_of_mem (Db.candidate_eq_some hcandidate).1
  have hafter := Db.life_afterClaim hlife hd ha
  rw [Db.afterClaim_of_candidate hcandidate] at hafter
  have hsound : (row.assign (claimAssignment begins plugin.config.leaseSeconds row)).Sound := by
    obtain ⟨l', hl', hobserved⟩ := hrefines.moves _ _ hlife
    rcases hobserved.step with heq | hstep
    · -- the attempt number has moved
      rw [hafter, Option.some.injEq] at hl'
      have hattempts : row.attempts + 1 = row.attempts :=
        congrArg (fun l : Life => l.row.attempts) (hl'.trans heq)
      omega
    · rw [hafter, Option.some.injEq] at hl'
      subst hl'
      exact (hstep.sound (hinv.sound _ _ hlife)).row
  exact ⟨⟨_, (Db.life_eq_some_iff.mp hafter).1, rfl, .inl rfl⟩, hsound.started (.inl rfl),
    hsound.maxAttempts.2, hsound.replayCount⟩

/-- **The invariant is kept.** -/
theorem Step.inv {s t : Sys P} {label : Label P} (h : Step s label t) (hinv : s.Inv) : t.Inv := by
  have hrefines := h.writes.refines hinv
  refine ⟨?_, ?_, ?_⟩
  · intro id l' hl'
    cases hl : s.db.life id with
    | none => exact (hrefines.born id l' hl hl').sound
    | some l =>
      obtain ⟨l₁, hl₁, hobserved⟩ := hrefines.moves id l hl
      rcases hobserved.step with heq | hstep
      · rw [hl₁, Option.some.injEq] at hl'
        exact hl' ▸ heq ▸ hinv.sound id l hl
      · rw [hl₁, Option.some.injEq] at hl'
        exact hl' ▸ hstep.sound (hinv.sound id l hl)
  · intro id l' hl'
    cases hl : s.db.life id with
    | none => exact (hrefines.born id l' hl hl').authentic
    | some l =>
      obtain ⟨l₁, hl₁, hevolves⟩ := hrefines.evolves id l hl
      rw [hl₁, Option.some.injEq] at hl'
      subst hl'
      rw [hevolves.content]
      exact hinv.authentic id l hl
  · intro p hp delivery hdelivery
    rcases h.dispatched hp hdelivery with ⟨q, hq, hqd⟩ | ⟨queueName, hclaim⟩
    · exact (hinv.known q hq delivery hqd).evolves hrefines.evolves
    · have hwrites := h.writes
      rw [hclaim] at hwrites
      exact known_of_claim hinv hwrites

/-- There is nothing to begin with. -/
theorem life_of_init {s : Sys P} (h : (system P).init s) (id : String) : s.db.life id = none := by
  rw [h.1]
  rfl

/-- **The invariant of every reachable state.** -/
theorem reachable_inv {s : Sys P} (h : (system P).Reachable s) : s.Inv := by
  refine h.induction (P := fun s => s.Inv) ?_ fun s label t _ hinv hstep => Step.inv hstep hinv
  intro s hinit
  have hnone := life_of_init hinit
  exact ⟨fun id l hl => by simp [hnone] at hl, fun id l hl => by simp [hnone] at hl,
    fun p hp => by simp [hinit.2] at hp⟩

/-- **What a run keeps of a delivery.** -/
theorem path_evolves {s t : Sys P} {labels : List (Label P)} (hs : (system P).Reachable s)
    (h : (system P).Path s labels t) : s.db.Evolves t.db := by
  refine h.rel (R := fun s t : Sys P => s.db.Evolves t.db) (fun s => .refl s.db)
    (fun _ _ _ => Db.Evolves.trans) ?_ hs
  intro s label t hreach hstep
  exact (Step.writes hstep).refines (reachable_inv hreach) |>.evolves

end OutboundWebhook
