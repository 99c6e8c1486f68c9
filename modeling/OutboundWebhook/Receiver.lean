import OutboundWebhook.Provenance

/-!
# Deduplication at the receiver

Delivery is at-least-once: a worker may send a request and stop before the answer is recorded, and
the delivery is then claimed and sent again. The documentation asks the receiver to deduplicate on
`x-lenso-webhook-id`. This module takes it at its word. `processed` is such a receiver, and the
requests that arrive at it are any of those that were sent, in any order and any number of times.

Nothing is assumed of the digests in the identities: two deliveries of one schema have different
ids because the id is a primary key.

## Main results

* `faithful_of_sent` — every request that was sent is faithful to a row that is still there
* `receiver_processes_once` — each event is processed at most once, with the stored payload, and
  each delivered one exactly once
-/

namespace OutboundWebhook

variable {P : Platform}

/-- The requests of a run, in the order they were sent. -/
def sent (labels : List (Label P)) : List SendRequest :=
  labels.filterMap fun label => label.observation.posted.map Post.request

/-- What the receiver deduplicates on. -/
def SendRequest.webhookId (request : SendRequest) : Option String :=
  request.header "x-lenso-webhook-id"

/-- The business identity. -/
def SendRequest.webhookEventId (request : SendRequest) : Option String :=
  request.header "x-lenso-webhook-event-id"

/-- The requests a receiver processes, one for each id. -/
def processed (arrivals : List SendRequest) : List SendRequest :=
  KeyedTable.insertAll SendRequest.webhookId arrivals []

/-- The request was answered, and the answer was recorded as a delivery. -/
def Acknowledged (labels : List (Label P)) (t : Sys P) (request : SendRequest) : Prop :=
  ∃ delivery response receivedAt decidedAt, IsDelivery response ∧
    (system P).Passed [IsResultOf delivery response receivedAt decidedAt,
      fun _ label => label.observation.posted = some ⟨delivery, request⟩] labels t

/-! ### What was sent -/

/-- A request is faithful to its row, then and later. -/
theorem faithful_of_posted {labels : List (Label P)} {t : Sys P} (hrun : (system P).Run labels t)
    {label : Label P} (hlabel : label ∈ labels) {post : Post}
    (hposted : label.observation.posted = some post) :
    ∃ row ∈ t.db.deliveries, row.deliveryId = post.delivery.deliveryId ∧
      ∃ signingKey, FaithfulPost P row signingKey post.request := by
  obtain ⟨before, after, rfl⟩ := List.append_of_mem hlabel
  obtain ⟨u, v, hu, hstep, hpath⟩ := hrun.split
  obtain ⟨plugin, prepared, now, row, -, hrow, -, -, hfaithful⟩ :=
    Step.faithfulPost (reachable_inv hu.reachable) hstep hposted
  have htail : (system P).Path u (label :: after) t := ⟨v, hstep, hpath⟩
  obtain ⟨l, hl, hevolves⟩ := path_evolves hu.reachable htail _ _ (Db.life_of_delivery hrow)
  exact ⟨l.row, Db.mem_of_life hl, Db.deliveryId_of_life hl, prepared.signingKey,
    hfaithful.of_content hevolves.content.symm⟩

/-- **Every request that was sent is faithful to a row.** -/
theorem faithful_of_sent {labels : List (Label P)} {t : Sys P} (hrun : (system P).Run labels t)
    {request : SendRequest} (hsent : request ∈ sent labels) :
    ∃ row ∈ t.db.deliveries, ∃ signingKey, FaithfulPost P row signingKey request := by
  obtain ⟨label, hlabel, hrequest⟩ := List.mem_filterMap.mp hsent
  obtain ⟨post, hposted, rfl⟩ := Option.map_eq_some_iff.mp hrequest
  obtain ⟨row, hrow, -, hfaithful⟩ := faithful_of_posted hrun hlabel hposted
  exact ⟨row, hrow, hfaithful⟩

/-- What two faithful requests agree on. -/
theorem FaithfulPost.agree {db : Db} {row row' : DeliveryRow} {signingKey signingKey' : Bytes}
    {request request' : SendRequest} (hrow : row ∈ db.deliveries) (hrow' : row' ∈ db.deliveries)
    (h : FaithfulPost P row signingKey request) (h' : FaithfulPost P row' signingKey' request') :
    (request.webhookId = request'.webhookId ↔ row = row') ∧
      (request.webhookEventId = request'.webhookEventId ↔ row = row') := by
  rw [SendRequest.webhookId, SendRequest.webhookId, SendRequest.webhookEventId,
    SendRequest.webhookEventId, h.deliveryId, h'.deliveryId, h.eventId, h'.eventId,
    Option.some.injEq, Option.some.injEq]
  refine ⟨⟨Db.eq_of_deliveryId_eq hrow hrow', ?_⟩,
    ⟨KeyedTable.eq_of_key_eq db.deliveries_event_id_key hrow hrow', ?_⟩⟩
  · rintro rfl
    rfl
  · rintro rfl
    rfl

theorem Acknowledged.mem_sent {labels : List (Label P)} {t : Sys P} {request : SendRequest}
    (h : Acknowledged labels t request) : request ∈ sent labels := by
  obtain ⟨delivery, response, receivedAt, decidedAt, -, hpassed⟩ := h
  obtain ⟨label, hlabel, -, hposted⟩ :=
    hpassed.exists_of_mem (List.mem_cons_of_mem _ List.mem_cons_self)
  exact List.mem_filterMap.mpr ⟨label, hlabel, by rw [hposted]; rfl⟩

/-- The request of a delivered row was acknowledged. -/
theorem exists_acknowledged {labels : List (Label P)} {t : Sys P} (hrun : (system P).Run labels t)
    {row : DeliveryRow} (hrow : row ∈ t.db.deliveries) (hstatus : row.status = .delivered) :
    ∃ request, Acknowledged labels t request ∧
      ∃ signingKey, FaithfulPost P row signingKey request := by
  obtain ⟨delivery, response, receivedAt, decidedAt, hat, hdelivery, hpassed⟩ :=
    (traced_of_run hrun).delivered _ _ (Db.life_of_mem hrow) hstatus
  obtain ⟨before, result, after, s, s', rfl, hposted, hstep, hpath, hresult⟩ := hpassed
  obtain ⟨before', post, after', u, u', rfl, hclaimed, hstep', hpath', request, hrequest⟩ := hposted
  have hmem : post ∈ (before' ++ post :: after') ++ result :: after :=
    List.mem_append_left _ List.mem_append_cons_self
  obtain ⟨row', hrow', hid, hfaithful⟩ := faithful_of_posted hrun hmem hrequest
  have hsame : row' = row := Db.eq_of_deliveryId_eq hrow' hrow
    (hid.trans (congrArg Content.deliveryId hat.1).symm)
  refine ⟨request, ⟨delivery, response, receivedAt, decidedAt, hdelivery, ?_⟩, hsame ▸ hfaithful⟩
  exact ⟨_, result, after, s, s', rfl,
    ⟨before', post, after', u, u', rfl, hclaimed.run, hstep', hpath', hrequest⟩, hstep, hpath,
    hresult⟩

/-! ### What is processed -/

/-- **The receiver processes each event at most once, and each delivered one exactly once.** The
requests may arrive in any order and any number of times, or not at all; those that the receiver
has answered have arrived. -/
theorem receiver_processes_once (P : Platform) {labels : List (Label P)} {t : Sys P}
    (hrun : (system P).Run labels t) {arrivals : List SendRequest}
    (hsent : ∀ request ∈ arrivals, request ∈ sent labels)
    (hacknowledged : ∀ request, Acknowledged labels t request → request ∈ arrivals) :
    ((processed arrivals).map SendRequest.webhookId).Nodup ∧
    ((processed arrivals).map SendRequest.webhookEventId).Nodup ∧
    (∀ request ∈ processed arrivals, ∃ row ∈ t.db.deliveries,
      request.webhookId = some row.deliveryId ∧ request.webhookEventId = some row.eventId ∧
      request.body = row.payloadSnapshot) ∧
    (∀ request ∈ arrivals, ∃ first ∈ processed arrivals, first.webhookId = request.webhookId ∧
      first.webhookEventId = request.webhookEventId ∧ first.body = request.body) ∧
    (∀ row ∈ t.db.deliveries, row.status = .delivered →
      ((processed arrivals).filter fun request =>
        request.webhookEventId = some row.eventId).length = 1) := by
  have hprocessed : ∀ request ∈ processed arrivals,
      ∃ row ∈ t.db.deliveries, ∃ signingKey, FaithfulPost P row signingKey request := by
    intro request hrequest
    have harrived := (KeyedTable.mem_of_mem_insertAll hrequest).resolve_left List.not_mem_nil
    exact faithful_of_sent hrun (hsent request harrived)
  have hids : ((processed arrivals).map SendRequest.webhookId).Nodup :=
    KeyedTable.nodup_map_insertAll List.nodup_nil
  have hevents : ((processed arrivals).map SendRequest.webhookEventId).Nodup := by
    refine hids.of_map.map_on ?_
    intro first hfirst second hsecond hevent
    obtain ⟨row, hrow, signingKey, hfaithful⟩ := hprocessed first hfirst
    obtain ⟨row', hrow', signingKey', hfaithful'⟩ := hprocessed second hsecond
    have hagree := hfaithful.agree hrow hrow' hfaithful'
    exact List.inj_on_of_nodup_map hids hfirst hsecond (hagree.1.mpr (hagree.2.mp hevent))
  have hfirst : ∀ request ∈ arrivals, ∃ first ∈ processed arrivals,
      first.webhookId = request.webhookId ∧ first.webhookEventId = request.webhookEventId ∧
      first.body = request.body := by
    intro request harrived
    have hkey : request.webhookId ∈ (processed arrivals).map SendRequest.webhookId :=
      KeyedTable.key_mem_insertAll harrived
    obtain ⟨first, hfirst, hid⟩ := List.mem_map.mp hkey
    obtain ⟨row, hrow, signingKey, hfaithful⟩ := faithful_of_sent hrun (hsent request harrived)
    obtain ⟨row', hrow', signingKey', hfaithful'⟩ := hprocessed first hfirst
    have hagree := hfaithful'.agree hrow' hrow hfaithful
    obtain rfl := hagree.1.mp hid
    exact ⟨first, hfirst, hid, hagree.2.mpr rfl, hfaithful'.body.trans hfaithful.body.symm⟩
  refine ⟨hids, hevents, ?_, hfirst, ?_⟩
  · intro request hrequest
    obtain ⟨row, hrow, signingKey, hfaithful⟩ := hprocessed request hrequest
    exact ⟨row, hrow, hfaithful.deliveryId, hfaithful.eventId, hfaithful.body⟩
  · intro row hrow hstatus
    obtain ⟨request, hans, signingKey, hfaithful⟩ := exists_acknowledged hrun hrow hstatus
    obtain ⟨first, hmem, -, hevent, -⟩ := hfirst request (hacknowledged request hans)
    have hkey : some row.eventId = first.webhookEventId := hfaithful.eventId.symm.trans hevent.symm
    rw [hkey, KeyedTable.filter_key_of_mem hevents hmem]
    rfl

/-- The request of the first order arrives twice, and is processed once. -/
theorem receiver_processes_once_twice :
    ∃ labels t row, (system reference).Run labels t ∧ row ∈ t.db.deliveries ∧
      row.status = .delivered ∧
      ((processed (sent labels ++ sent labels)).filter fun request =>
        request.webhookEventId = some row.eventId).length = 1 := by
  obtain ⟨labels, s, label, t, hrun, -, hstep, -, -, -, hdelivered, -⟩ := exists_first_delivered
  obtain ⟨hrow, -⟩ := Db.delivery_eq_some_iff.mp hdelivered
  have hboth : ∀ request ∈ sent (labels ++ [label]) ++ sent (labels ++ [label]),
      request ∈ sent (labels ++ [label]) := by
    intro request hrequest
    exact (List.mem_append.mp hrequest).elim id id
  refine ⟨_, t, _, hrun.snoc hstep, hrow, rfl, ?_⟩
  refine (receiver_processes_once reference (hrun.snoc hstep) hboth ?_).2.2.2.2 _ hrow rfl
  intro request hacknowledged
  exact List.mem_append_left _ hacknowledged.mem_sent

end OutboundWebhook
