import OutboundWebhook.Identity
import OutboundWebhook.Reference

/-!
# Enqueue is idempotent

The first enqueue of an event that reaches the store creates its row, and the row's content is that
enqueue's for ever. Every later enqueue of the event is compared with it and changes nothing.

## Collisions

Two unique columns stand behind one `ON CONFLICT DO NOTHING`. The event id is what the caller
names; the delivery id is a truncated digest of the endpoint and the event id, and the theorem
assumes that the ids of the deliveries a run offers to the store do not collide (`NoCollision`).
The digest's preimage separates the two parts by a NUL, which no event id contains, so equal
preimages do come from equal parts (`Enqueued.preimage_inj`).

## Main results

* `enqueue_idempotent`
-/

namespace OutboundWebhook

variable {P : Platform}

/-! ### Enqueues of a run -/

/-- The delivery an enqueue has offered to the store. -/
def Observation.offered (o : Observation) : Option NewDelivery :=
  match o.stored with
  | some (.enqueue delivery _) => some delivery
  | _ => none

/-- An enqueue of the event that has reached the store: the delivery and the answer. -/
def Observation.enqueueOf (event : String) (o : Observation) :
    Option (NewDelivery × Except (Abort FlowError) EnqueueResponse) :=
  match o.offered, o.answer with
  | some delivery, some (.enqueue answer) =>
    if delivery.eventId = event then some (delivery, answer) else none
  | _, _ => none

/-- The deliveries a run has offered to the store, in order. -/
def offered (labels : List (Label P)) : List NewDelivery :=
  labels.filterMap fun label => label.observation.offered

/-- The enqueues of the event that have reached the store, in order. -/
def enqueuesOf (event : String) (labels : List (Label P)) :
    List (NewDelivery × Except (Abort FlowError) EnqueueResponse) :=
  labels.filterMap fun label => label.observation.enqueueOf event

/-- No two digests in use collide. -/
def NoCollision (labels : List (Label P)) : Prop :=
  ∀ delivery ∈ offered labels, ∀ other ∈ offered labels,
    delivery.deliveryId = other.deliveryId →
    deliveryIdPreimage delivery.endpointUrl delivery.eventId
      = deliveryIdPreimage other.endpointUrl other.eventId

/-- The delivery repeats what `first` was created with. -/
structure NewDelivery.Repeats (delivery first : NewDelivery) : Prop where
  eventType : delivery.eventType = first.eventType
  endpointUrl : delivery.endpointUrl = first.endpointUrl
  endpointOrigin : delivery.endpointOrigin = first.endpointOrigin
  payloadSnapshot : delivery.payloadSnapshot = first.payloadSnapshot
  queueName : delivery.queueName = first.queueName

/-- What a later enqueue of the event of `first` is answered. -/
def Answered (first : NewDelivery)
    (enqueue : NewDelivery × Except (Abort FlowError) EnqueueResponse) : Prop :=
  (enqueue.1.Repeats first → ∃ status, enqueue.2 = .ok ⟨first.deliveryId, false, status⟩) ∧
    (¬enqueue.1.Repeats first →
      enqueue.2 = .error (.error (.domain .idempotencyConflict)))

theorem offered_snoc (labels : List (Label P)) (label : Label P) :
    offered (labels ++ [label]) = offered labels ++ label.observation.offered.toList := by
  rw [offered, List.filterMap_append, ← offered]
  cases h : label.observation.offered <;> simp [h]

theorem enqueuesOf_snoc (event : String) (labels : List (Label P)) (label : Label P) :
    enqueuesOf event (labels ++ [label])
      = enqueuesOf event labels ++ (label.observation.enqueueOf event).toList := by
  rw [enqueuesOf, List.filterMap_append, ← enqueuesOf]
  cases h : label.observation.enqueueOf event <;> simp [h]

theorem NoCollision.of_prefix {before labels : List (Label P)} (h : NoCollision labels)
    (hcut : before <+: labels) : NoCollision before := by
  have hsub : offered before ⊆ offered labels := (hcut.sublist.filterMap _).subset
  exact fun delivery hdelivery other hother => h delivery (hsub hdelivery) other (hsub hother)

/-- An enqueue of another event. -/
theorem Observation.enqueueOf_of_ne {o : Observation} {delivery : NewDelivery} {event : String}
    (hoffered : o.offered = some delivery) (hne : delivery.eventId ≠ event) :
    o.enqueueOf event = none := by
  rw [Observation.enqueueOf, hoffered]
  cases o.answer with
  | none => rfl
  | some answer => cases answer <;> simp [hne]

/-- An enqueue of this event. -/
theorem Observation.enqueueOf_of_eq {o : Observation} {delivery : NewDelivery} {event : String}
    {answer : Except (Abort FlowError) EnqueueResponse} (hoffered : o.offered = some delivery)
    (hanswer : o.answer = some (.enqueue answer)) (heq : delivery.eventId = event) :
    o.enqueueOf event = some (delivery, answer) := by
  rw [Observation.enqueueOf, hoffered, hanswer]
  exact if_pos heq

theorem Observation.enqueueOf_of_not_offered {o : Observation} (h : o.offered = none)
    (event : String) : o.enqueueOf event = none := by
  rw [Observation.enqueueOf, h]

/-! ### Identities -/

section Identities

variable {plugin plugin' : OutboundWebhookPlugin P} {request request' : EnqueueRequest}
  {delivery other : NewDelivery}

/-- **A preimage says which endpoint and which event it is of.** -/
theorem Enqueued.preimage_inj (h : Enqueued plugin request delivery)
    (h' : Enqueued plugin' request' other)
    (heq : deliveryIdPreimage delivery.endpointUrl delivery.eventId
      = deliveryIdPreimage other.endpointUrl other.eventId) :
    delivery.endpointUrl = other.endpointUrl ∧ delivery.eventId = other.eventId := by
  have hname := h.eventName
  have hname' := h'.eventName
  rw [← h.eventId] at hname
  rw [← h'.eventId] at hname'
  exact deliveryIdPreimage_inj hname hname' heq

/-- A delivery that repeats another one has its id. -/
theorem Enqueued.deliveryId_eq (h : Enqueued plugin request delivery)
    (h' : Enqueued plugin' request' other) (hevent : delivery.eventId = other.eventId)
    (hrepeats : delivery.Repeats other) : delivery.deliveryId = other.deliveryId := by
  rw [h.deliveryId, h'.deliveryId, ← h.endpointUrl, ← h'.endpointUrl, ← h.eventId, ← h'.eventId,
    hevent, hrepeats.endpointUrl]

/-- The comparison of the store, which also compares the digests. -/
theorem Enqueued.same_iff (h : Enqueued plugin request delivery)
    (h' : Enqueued plugin' request' other) {row : DeliveryRow}
    (hrow : row.content = (other.toRow 0).content) :
    delivery.same (decodeDelivery row) ↔ delivery.Repeats other := by
  have htype : row.eventType = other.eventType := congrArg Content.eventType hrow
  have hurl : row.endpointUrl = other.endpointUrl := congrArg Content.endpointUrl hrow
  have horigin : row.endpointOrigin = other.endpointOrigin := congrArg Content.endpointOrigin hrow
  have hsnapshot : row.payloadSnapshot = other.payloadSnapshot :=
    congrArg Content.payloadSnapshot hrow
  have hdigest : row.payloadSha256 = other.payloadSha256 := congrArg Content.payloadSha256 hrow
  have hqueue : row.queueName = other.queueName := congrArg Content.queueName hrow
  simp only [NewDelivery.same, decodeDelivery, Bool.and_eq_true, beq_iff_eq, htype, hurl, horigin,
    hsnapshot, hdigest, hqueue]
  constructor
  · rintro ⟨⟨⟨⟨⟨htype, hurl⟩, horigin⟩, hsnapshot⟩, -⟩, hqueue⟩
    exact ⟨htype.symm, hurl.symm, horigin.symm, hsnapshot.symm, hqueue.symm⟩
  · rintro ⟨htype, hurl, horigin, hsnapshot, hqueue⟩
    refine ⟨⟨⟨⟨⟨htype.symm, hurl.symm⟩, horigin.symm⟩, hsnapshot.symm⟩, ?_⟩, hqueue.symm⟩
    rw [h.payloadSha256, h'.payloadSha256, hsnapshot]

end Identities

/-! ### One step -/

/-- What is answered is made of what the store has returned. -/
theorem Step.enqueue_answer {s t : Sys P} {label : Label P} (h : Step s label t)
    {delivery : NewDelivery} {result : Except (Abort StoreError) InsertOutcome}
    (hstored : label.observation.stored = some (.enqueue delivery result)) :
    label.observation.answer = some (.enqueue (enqueueAnswer delivery.deliveryId result)) := by
  cases h with
  | @start begins takesEffect locked call hbegins hnow =>
    have hfirst := call.firstStretch begins locked s.db
    generalize call.start begins locked s.db = effect at hfirst hstored
    cases hfirst with
    | enqueued hnew =>
      simp only [Option.some.injEq, Stored.enqueue.injEq] at hstored
      obtain ⟨rfl, rfl⟩ := hstored
      rfl
    | claimed => exact nomatch hstored
    | _ => exact nomatch hstored
  | @resume begins takesEffect before after p input effect hbegins hnow hsince hpending heffect =>
    have hnext := Task.nextStretch begins s.db heffect
    generalize p.task = task at hnext
    cases hnext with
    | _ => exact nomatch hstored
  | stop => exact nomatch hstored

/-- An enqueue of a known event: the row is compared, and nothing changes. -/
theorem Step.enqueue_of_event {s t : Sys P} {label : Label P} (h : Step s label t)
    {delivery : NewDelivery} (hoffered : label.observation.offered = some delivery)
    {row : DeliveryRow} (hrow : row ∈ s.db.deliveries) (hevent : row.eventId = delivery.eventId) :
    t.db = s.db ∧ label.observation.enqueueOf delivery.eventId = some (delivery,
      if delivery.same (decodeDelivery row) then .ok ⟨delivery.deliveryId, false, row.status⟩
      else .error (.error (.domain .idempotencyConflict))) := by
  have hwrites := h.writes
  have hanswer := fun result => @Step.enqueue_answer P s t label h delivery result
  cases hstored : label.observation.stored with
  | none => simp [Observation.offered, hstored] at hoffered
  | some stored =>
    cases stored with
    | enqueue offered result =>
      simp only [Observation.offered, hstored, Option.some.injEq] at hoffered
      subst hoffered
      rw [hstored] at hwrites
      obtain ⟨hrun, plugin, caller, now, request, hnew⟩ := hwrites.enqueue_inv
      have hlookup : KeyedTable.lookup DeliveryRow.eventId offered.eventId s.db.deliveries
          = some row := hevent ▸ KeyedTable.lookup_of_mem s.db.deliveries_event_id_key hrow
      have hmax := (enqueued_of_newDelivery hnew).maxAttempts_bounds
      rw [transact_of_eq_ok (insertOrGet_of_event hmax hlookup), Prod.mk.injEq] at hrun
      obtain ⟨rfl, hdb⟩ := hrun
      refine ⟨hdb.symm, ?_⟩
      simp only [Observation.enqueueOf, Observation.offered, hstored, hanswer _ hstored, if_true]
      split <;> rfl
    | _ => simp [Observation.offered, hstored] at hoffered

/-- An enqueue of an unknown event whose id is free creates the row. -/
theorem Step.enqueue_of_free {s t : Sys P} {label : Label P} (h : Step s label t)
    {delivery : NewDelivery} (hoffered : label.observation.offered = some delivery)
    (hid : delivery.deliveryId ∉ s.db.deliveries.map DeliveryRow.deliveryId)
    (hevent : delivery.eventId ∉ s.db.deliveries.map DeliveryRow.eventId) :
    t.db.deliveries = s.db.deliveries ++ [delivery.toRow label.begins] ∧
      label.observation.enqueueOf delivery.eventId
        = some (delivery, .ok ⟨delivery.deliveryId, true, .queued⟩) := by
  have hwrites := h.writes
  have hanswer := fun result => @Step.enqueue_answer P s t label h delivery result
  cases hstored : label.observation.stored with
  | none => simp [Observation.offered, hstored] at hoffered
  | some stored =>
    cases stored with
    | enqueue offered result =>
      simp only [Observation.offered, hstored, Option.some.injEq] at hoffered
      subst hoffered
      rw [hstored] at hwrites
      obtain ⟨hrun, plugin, caller, now, request, hnew⟩ := hwrites.enqueue_inv
      have hmax := (enqueued_of_newDelivery hnew).maxAttempts_bounds
      obtain ⟨db', hok, hd, -⟩ := insertOrGet_of_free label.begins hmax hid hevent
      rw [transact_of_eq_ok hok, Prod.mk.injEq] at hrun
      obtain ⟨rfl, rfl⟩ := hrun
      refine ⟨hd, ?_⟩
      simp only [Observation.enqueueOf, Observation.offered, hstored, hanswer _ hstored, if_true]
      rfl
    | _ => simp [Observation.offered, hstored] at hoffered

/-- A step that is not an enqueue keeps the content of every row and adds none. -/
theorem Step.deliveries_of_not_offered {s t : Sys P} {label : Label P} (hinv : s.Inv)
    (h : Step s label t) (hnone : label.observation.offered = none) :
    ∃ f : DeliveryRow → DeliveryRow, (∀ row, (f row).content = row.content) ∧
      t.db.deliveries = s.db.deliveries.map f := by
  have hupdated : ∀ (cond : DeliveryRow → Bool) (set : DeliveryRow → Assignment)
      (row : DeliveryRow), (row.updated cond set).content = row.content := by
    intro cond set row
    rw [DeliveryRow.updated]
    split <;> rfl
  have hsame : t.db = s.db → ∃ f : DeliveryRow → DeliveryRow,
      (∀ row, (f row).content = row.content) ∧ t.db.deliveries = s.db.deliveries.map f :=
    fun heq => ⟨id, fun _ => rfl, by rw [heq, List.map_id]⟩
  have hwrites := h.writes
  cases hstored : label.observation.stored with
  | none =>
    rw [hstored] at hwrites
    exact hsame hwrites.nothing_inv
  | some stored =>
    rw [hstored] at hwrites
    cases stored with
    | enqueue delivery result => simp [Observation.offered, hstored] at hnone
    | claim queueName result =>
      obtain ⟨plugin, locked, -, hrun⟩ := hwrites.claim_inv
      obtain ⟨db', hok, hd, -⟩ := hinv.claim plugin label.begins locked
      rw [hok, Prod.mk.injEq] at hrun
      refine ⟨_, ?_, hrun.2 ▸ hd⟩
      intro row
      rw [Db.afterClaim, hupdated, hupdated]
    | outcome call result =>
      obtain ⟨hrun, -⟩ := hwrites.outcome_inv
      cases hbody : call.run label.begins s.db with
      | error error =>
        rw [transact_of_eq_error hbody, Prod.mk.injEq] at hrun
        exact hsame hrun.2.symm
      | ok value =>
        obtain ⟨⟨⟩, db'⟩ := value
        rw [transact_of_eq_ok hbody, Prod.mk.injEq] at hrun
        obtain ⟨-, -, hd, -⟩ := recordOutcome_ok_inv hbody
        exact ⟨_, hupdated _ _, hrun.2 ▸ hd⟩
    | replay deliveryId result =>
      have hrun := hwrites.replay_inv
      obtain ⟨db', hok, hd, -⟩ := beginReplay_eq_ok label.begins deliveryId s.db
      rw [transact_of_eq_ok hok, Prod.mk.injEq] at hrun
      exact ⟨_, hupdated _ _, hrun.2 ▸ hd⟩

theorem Step.enqueued_of_offered {s t : Sys P} {label : Label P} (h : Step s label t)
    {delivery : NewDelivery} (hoffered : label.observation.offered = some delivery) :
    ∃ (plugin : OutboundWebhookPlugin P) (request : EnqueueRequest),
      Enqueued plugin request delivery := by
  have hwrites := h.writes
  cases hstored : label.observation.stored with
  | none => simp [Observation.offered, hstored] at hoffered
  | some stored =>
    cases stored with
    | enqueue offered result =>
      simp only [Observation.offered, hstored, Option.some.injEq] at hoffered
      subst hoffered
      rw [hstored] at hwrites
      obtain ⟨-, plugin, caller, now, request, hnew⟩ := hwrites.enqueue_inv
      exact ⟨plugin, request, enqueued_of_newDelivery hnew⟩
    | _ => simp [Observation.offered, hstored] at hoffered

/-! ### Runs -/

/-- The enqueues of an event, against the tables. -/
inductive Remembered (event : String) (labels : List (Label P)) (db : Db) : Prop
  | unknown (henqueues : enqueuesOf event labels = [])
      (hevent : event ∉ db.deliveries.map DeliveryRow.eventId)
  | known {first : NewDelivery}
      {rest : List (NewDelivery × Except (Abort FlowError) EnqueueResponse)} {row : DeliveryRow}
      {plugin : OutboundWebhookPlugin P} {request : EnqueueRequest}
      (henqueues : enqueuesOf event labels = (first, .ok ⟨first.deliveryId, true, .queued⟩) :: rest)
      (hnew : Enqueued plugin request first) (hfirst : first ∈ offered labels)
      (hevent : first.eventId = event) (hrow : row ∈ db.deliveries)
      (hcontent : row.content = (first.toRow 0).content)
      (hrest : ∀ enqueue ∈ rest, Answered first enqueue)

/-- The row of a known event is the one its first enqueue has created. -/
theorem Remembered.of_row {event : String} {labels : List (Label P)} {db : Db}
    (h : Remembered event labels db) {row : DeliveryRow} (hrow : row ∈ db.deliveries)
    (hevent : row.eventId = event) :
    ∃ first rest, enqueuesOf event labels
        = (first, .ok ⟨first.deliveryId, true, .queued⟩) :: rest ∧
      (∃ (plugin : OutboundWebhookPlugin P) (request : EnqueueRequest),
        Enqueued plugin request first) ∧
      first ∈ offered labels ∧ first.eventId = event ∧
      row.content = (first.toRow 0).content ∧ ∀ enqueue ∈ rest, Answered first enqueue := by
  cases h with
  | unknown henqueues hnot => exact absurd (hevent ▸ List.mem_map_of_mem hrow) hnot
  | @known first rest row' plugin request henqueues hnew hfirst hfirstEvent hrow' hcontent hrest =>
    have hid : row'.eventId = event := (congrArg Content.eventId hcontent).trans hfirstEvent
    have hsame : row' = row := KeyedTable.eq_of_key_eq db.deliveries_event_id_key hrow' hrow
      (hid.trans hevent.symm)
    exact ⟨first, rest, henqueues, ⟨plugin, request, hnew⟩, hfirst, hfirstEvent, hsame ▸ hcontent,
      hrest⟩

/-- A step that offers nothing of the event. -/
theorem Remembered.keep {event : String} {labels : List (Label P)} {label : Label P} {db db' : Db}
    (h : Remembered event labels db) (hnone : label.observation.enqueueOf event = none)
    (hkeep : ∀ row ∈ db.deliveries, ∃ row' ∈ db'.deliveries, row'.content = row.content)
    (hnew : event ∉ db.deliveries.map DeliveryRow.eventId →
      event ∉ db'.deliveries.map DeliveryRow.eventId) :
    Remembered event (labels ++ [label]) db' := by
  have hsnoc : enqueuesOf event (labels ++ [label]) = enqueuesOf event labels := by
    rw [enqueuesOf_snoc, hnone, Option.toList_none, List.append_nil]
  cases h with
  | unknown henqueues hevent => exact .unknown (hsnoc.trans henqueues) (hnew hevent)
  | @known first rest row plugin request henqueues henqueued hfirst hevent hrow hcontent hrest =>
    obtain ⟨row', hrow', hsame⟩ := hkeep row hrow
    refine .known (hsnoc.trans henqueues) henqueued ?_ hevent hrow' (hsame.trans hcontent) hrest
    rw [offered_snoc]
    exact List.mem_append_left _ hfirst

/-- An id in use belongs to the event it is asked for. -/
theorem notMem_deliveryId_of_noCollision {labels : List (Label P)} {label : Label P} {db : Db}
    (h : ∀ event, Remembered event labels db) (hdigests : NoCollision (labels ++ [label]))
    {delivery : NewDelivery} {plugin : OutboundWebhookPlugin P} {request : EnqueueRequest}
    (hnew : Enqueued plugin request delivery) (hoffered : label.observation.offered = some delivery)
    (hevent : delivery.eventId ∉ db.deliveries.map DeliveryRow.eventId) :
    delivery.deliveryId ∉ db.deliveries.map DeliveryRow.deliveryId := by
  intro hmem
  obtain ⟨row, hrow, hid⟩ := List.mem_map.mp hmem
  obtain ⟨first, rest, -, ⟨plugin', request', hfirstNew⟩, hfirst, hfirstEvent, hcontent, -⟩ :=
    (h row.eventId).of_row hrow rfl
  have hfirstId : first.deliveryId = delivery.deliveryId :=
    (congrArg Content.deliveryId hcontent).symm.trans hid
  rw [NoCollision, offered_snoc, hoffered, Option.toList_some] at hdigests
  have hpreimage := hdigests delivery (List.mem_append_right _ (List.mem_singleton.mpr rfl)) first
    (List.mem_append_left _ hfirst) hfirstId.symm
  obtain ⟨-, hsame⟩ := hnew.preimage_inj hfirstNew hpreimage
  exact hevent (List.mem_map.mpr ⟨row, hrow, (hsame.trans hfirstEvent).symm⟩)

/-- A later enqueue of a known event. -/
theorem Remembered.again {labels : List (Label P)} {label : Label P} {s t : Sys P}
    (hstep : Step s label t) {delivery : NewDelivery}
    (hoffered : label.observation.offered = some delivery)
    (h : Remembered delivery.eventId labels s.db) {row : DeliveryRow}
    (hrow : row ∈ s.db.deliveries) (hevent : row.eventId = delivery.eventId) :
    Remembered delivery.eventId (labels ++ [label]) t.db := by
  obtain ⟨hdb, henqueue⟩ := hstep.enqueue_of_event hoffered hrow hevent
  obtain ⟨plugin, request, hnew⟩ := hstep.enqueued_of_offered hoffered
  obtain ⟨first, rest, henqueues, ⟨plugin', request', hfirstNew⟩, hfirst, hfirstEvent, hcontent,
    hrest⟩ := h.of_row hrow hevent
  have hsame := hnew.same_iff hfirstNew hcontent
  have hsnoc : enqueuesOf delivery.eventId (labels ++ [label])
      = (first, .ok ⟨first.deliveryId, true, .queued⟩) :: (rest ++ [(delivery,
        if delivery.same (decodeDelivery row) then .ok ⟨delivery.deliveryId, false, row.status⟩
        else .error (.error (.domain .idempotencyConflict)))]) := by
    rw [enqueuesOf_snoc, henqueues, henqueue]
    rfl
  refine .known hsnoc hfirstNew ?_ hfirstEvent (hdb ▸ hrow) hcontent ?_
  · rw [offered_snoc]
    exact List.mem_append_left _ hfirst
  · intro enqueue hmem
    rcases List.mem_append.mp hmem with hmem | hmem
    · exact hrest enqueue hmem
    · rw [List.mem_singleton.mp hmem]
      refine ⟨fun hrepeats => ⟨row.status, ?_⟩, ?_⟩
      · rw [← hnew.deliveryId_eq hfirstNew hfirstEvent.symm hrepeats]
        exact if_pos (hsame.mpr hrepeats)
      · intro hdiffers
        exact if_neg fun h => hdiffers (hsame.mp h)

theorem Remembered.step {labels : List (Label P)} {label : Label P} {s t : Sys P} (hinv : s.Inv)
    (h : ∀ event, Remembered event labels s.db) (hdigests : NoCollision (labels ++ [label]))
    (hstep : Step s label t) (event : String) : Remembered event (labels ++ [label]) t.db := by
  cases hoffered : label.observation.offered with
  | none =>
    obtain ⟨f, hf, hd⟩ := hstep.deliveries_of_not_offered hinv hoffered
    have hevents : t.db.deliveries.map DeliveryRow.eventId
        = s.db.deliveries.map DeliveryRow.eventId := by
      rw [hd]
      exact KeyedTable.map_key_map fun row => congrArg Content.eventId (hf row)
    refine (h event).keep (Observation.enqueueOf_of_not_offered hoffered event)
      (fun row hrow => ⟨f row, ?_, hf row⟩) ?_
    · rw [hd]
      exact List.mem_map_of_mem hrow
    · intro hnot
      rwa [hevents]
  | some delivery =>
    obtain ⟨plugin, request, hnew⟩ := hstep.enqueued_of_offered hoffered
    by_cases hknown : delivery.eventId ∈ s.db.deliveries.map DeliveryRow.eventId
    · obtain ⟨row, hrow, hevent⟩ := List.mem_map.mp hknown
      by_cases hmine : delivery.eventId = event
      · subst hmine
        exact (h _).again hstep hoffered hrow hevent
      · obtain ⟨hdb, -⟩ := hstep.enqueue_of_event hoffered hrow hevent
        rw [hdb]
        exact (h event).keep (Observation.enqueueOf_of_ne hoffered hmine)
          (fun row hrow => ⟨row, hrow, rfl⟩) fun hnot => hnot
    · have hid := notMem_deliveryId_of_noCollision h hdigests hnew hoffered hknown
      obtain ⟨hd, henqueue⟩ := hstep.enqueue_of_free hoffered hid hknown
      by_cases hmine : delivery.eventId = event
      · subst hmine
        cases h delivery.eventId with
        | known henqueues _ _ hevent hrow hcontent =>
          exact absurd (List.mem_map.mpr
            ⟨_, hrow, (congrArg Content.eventId hcontent).trans hevent⟩) hknown
        | unknown henqueues =>
          have hsnoc : enqueuesOf delivery.eventId (labels ++ [label])
              = [(delivery, .ok ⟨delivery.deliveryId, true, .queued⟩)] := by
            rw [enqueuesOf_snoc, henqueues, henqueue]
            rfl
          have hfirst : delivery ∈ offered (labels ++ [label]) := by
            rw [offered_snoc, hoffered]
            exact List.mem_append_right _ (List.mem_singleton.mpr rfl)
          have hrow : delivery.toRow label.begins ∈ t.db.deliveries := Db.mem_of_last hd
          exact .known hsnoc hnew hfirst rfl hrow rfl (by simp)
      · refine (h event).keep (Observation.enqueueOf_of_ne hoffered hmine) ?_ ?_
        · intro row hrow
          exact ⟨row, hd ▸ List.mem_append_left _ hrow, rfl⟩
        · intro hnot
          rw [hd, List.map_append, List.mem_append, List.map_singleton, List.mem_singleton]
          exact fun hmem => hmem.elim hnot fun heq => hmine heq.symm

theorem remembered_of_run {labels : List (Label P)} {t : Sys P} (hrun : (system P).Run labels t)
    (hdigests : NoCollision labels) (event : String) : Remembered event labels t.db := by
  refine hrun.induction
    (P := fun labels t => NoCollision labels → ∀ event, Remembered event labels t.db) ?_ ?_
    hdigests event
  · rintro s ⟨hdb, -⟩ - event
    exact .unknown rfl (by simp [hdb, Db.empty])
  · intro labels s label t hs h hstep hdigests event
    have hbefore := hdigests.of_prefix (List.prefix_append labels [label])
    exact Remembered.step (reachable_inv hs.reachable) (h hbefore) hdigests hstep event

/-- **Enqueue is idempotent.** -/
theorem enqueue_idempotent (P : Platform) {labels : List (Label P)} {t : Sys P}
    (hrun : (system P).Run labels t) (hdigests : NoCollision labels) (event : String) :
    (t.db.deliveries.filter fun row => row.eventId = event).length ≤ 1 ∧
    (enqueuesOf event labels = [] ∧ event ∉ t.db.deliveries.map DeliveryRow.eventId ∨
      ∃ row ∈ t.db.deliveries, row.eventId = event ∧
        ∃ first rest, row.content = (first.toRow 0).content ∧
          enqueuesOf event labels = (first, .ok ⟨row.deliveryId, true, .queued⟩) :: rest ∧
          ∀ enqueue ∈ rest,
            (enqueue.1.Repeats first → ∃ status, enqueue.2 = .ok ⟨row.deliveryId, false, status⟩) ∧
            (¬enqueue.1.Repeats first →
              enqueue.2 = .error (.error (.domain .idempotencyConflict)))) ∧
    ∀ before label s s', before ++ [label] <+: labels → (system P).Run before s →
      (system P).step s label s' → (label.observation.enqueueOf event).isSome →
      enqueuesOf event before ≠ [] → s'.db = s.db := by
  refine ⟨?_, ?_, ?_⟩
  · by_cases hknown : event ∈ t.db.deliveries.map DeliveryRow.eventId
    · obtain ⟨row, hrow, rfl⟩ := List.mem_map.mp hknown
      rw [KeyedTable.filter_key_of_mem t.db.deliveries_event_id_key hrow]
      exact le_rfl
    · rw [KeyedTable.filter_key_of_notMem hknown]
      exact Nat.zero_le _
  · cases remembered_of_run hrun hdigests event with
    | unknown henqueues hevent => exact .inl ⟨henqueues, hevent⟩
    | @known first rest row plugin request henqueues hnew hfirst hevent hrow hcontent hrest =>
      have hid : first.deliveryId = row.deliveryId := (congrArg Content.deliveryId hcontent).symm
      refine .inr ⟨row, hrow, (congrArg Content.eventId hcontent).trans hevent, first, rest,
        hcontent, hid ▸ henqueues, ?_⟩
      rw [← hid]
      exact hrest
  · intro before label s s' hcut hs hstep henqueue hlater
    have hbefore : NoCollision before :=
      hdigests.of_prefix ((List.prefix_append before [label]).trans hcut)
    cases hoffered : label.observation.offered with
    | none => simp [Observation.enqueueOf_of_not_offered hoffered] at henqueue
    | some delivery =>
      by_cases hmine : delivery.eventId = event
      · cases remembered_of_run hs hbefore event with
        | unknown henqueues => exact absurd henqueues hlater
        | known _ _ _ hevent hrow hcontent =>
          refine (Step.enqueue_of_event hstep hoffered hrow ?_).1
          exact (congrArg Content.eventId hcontent).trans (hevent.trans hmine.symm)
      · simp [Observation.enqueueOf_of_ne hoffered hmine] at henqueue

/-- The clock a microsecond after the epoch. -/
def laterReading : OffsetDateTime := ⟨1000, by decide⟩

/-- The first order, enqueued twice, the second time by an instance that allows one attempt. -/
theorem exists_first_enqueued_twice :
    ∃ (first second : Label reference) (s t : Sys reference)
      (answer : Except (Abort FlowError) EnqueueResponse),
      (system reference).Run [first] s ∧ (system reference).step s second t ∧
      first.observation.offered = some firstOrder.delivery ∧
      first.observation.enqueueOf "order-1"
        = some (firstOrder.delivery, .ok ⟨firstOrder.delivery.deliveryId, true, .queued⟩) ∧
      second.observation.offered = some (hooksDelivery 1 "order-1" laterReading) ∧
      second.observation.enqueueOf "order-1"
        = some (hooksDelivery 1 "order-1" laterReading, answer) := by
  have hinit : (system reference).Run [] ⟨Db.empty, 0, []⟩ := ⟨_, ⟨rfl, rfl⟩, rfl⟩
  obtain ⟨s, hfirst, hd, -, -, hn⟩ := @exists_enqueue reference ⟨Db.empty, 0, []⟩ 0 _ _ _ _ _
    firstOrder.accepted List.not_mem_nil List.not_mem_nil (le_refl 0)
  have hrow : firstOrder.delivery.toRow 0 ∈ s.db.deliveries := Db.mem_of_last hd
  obtain ⟨t, hsecond, hdb⟩ := @exists_enqueue_again reference s 1 _ _ _ _ _
    (newDelivery_hooks validate_one validEventName_one laterReading) _ hrow rfl (by rw [hn]; decide)
  exact ⟨_, _, s, t, _, hinit.snoc hfirst, hsecond, rfl,
    Observation.enqueueOf_of_eq rfl rfl rfl, rfl, Observation.enqueueOf_of_eq rfl rfl rfl⟩

/-- The answers to those two enqueues. -/
theorem enqueue_idempotent_twice :
    ∃ (labels : List (Label reference)) (s t : Sys reference) (label : Label reference)
      (row : DeliveryRow) (first second : NewDelivery) (status : DeliveryStatus),
      (system reference).Run labels s ∧ (system reference).step s label t ∧ t.db = s.db ∧
      row ∈ t.db.deliveries ∧
      (t.db.deliveries.filter fun row => row.eventId = "order-1").length ≤ 1 ∧
      first.maxAttempts = 2 ∧ second.maxAttempts = 1 ∧
      enqueuesOf "order-1" (labels ++ [label]) = [(first, .ok ⟨row.deliveryId, true, .queued⟩),
        (second, .ok ⟨row.deliveryId, false, status⟩)] := by
  obtain ⟨first, second, s, t, answer, hrun, hstep, hoffered, hfirst, hoffered', hsecond⟩ :=
    exists_first_enqueued_twice
  have hdigests : NoCollision ([first] ++ [second]) := by
    have hall : offered ([first] ++ [second])
        = [firstOrder.delivery, hooksDelivery 1 "order-1" laterReading] := by
      simp [offered, hoffered, hoffered']
    intro delivery hdelivery other hother _
    rw [hall] at hdelivery hother
    rcases List.mem_pair.mp hdelivery with rfl | rfl <;>
      rcases List.mem_pair.mp hother with rfl | rfl <;> rfl
  have hall : enqueuesOf "order-1" ([first] ++ [second])
      = [(firstOrder.delivery, .ok ⟨firstOrder.delivery.deliveryId, true, .queued⟩),
        (hooksDelivery 1 "order-1" laterReading, answer)] := by
    simp [enqueuesOf, hfirst, hsecond]
  have hbefore : enqueuesOf "order-1" [first] ≠ [] := by simp [enqueuesOf, hfirst]
  obtain ⟨hone, hanswers, hunchanged⟩ :=
    enqueue_idempotent reference (hrun.snoc hstep) hdigests "order-1"
  rcases hanswers with ⟨hnone, -⟩ | ⟨row, hrow, -, created, rest, -, henqueues, hrest⟩
  · exact absurd (hall.symm.trans hnone) (List.cons_ne_nil _ _)
  · obtain ⟨hcreated, rfl⟩ := List.cons.inj (henqueues.symm.trans hall)
    obtain ⟨rfl, -⟩ := Prod.mk.inj hcreated
    obtain ⟨status, hanswer⟩ := (hrest _ (List.mem_singleton.mpr rfl)).1
      ⟨rfl, rfl, rfl, rfl, rfl⟩
    refine ⟨[first], s, t, second, row, _, _, status, hrun, hstep, ?_, hrow, hone, rfl, rfl,
      henqueues.trans (by rw [← hanswer])⟩
    exact hunchanged [first] second s t (List.prefix_refl _) hrun hstep (by simp [hsecond]) hbefore

end OutboundWebhook
