import OutboundWebhook.Refinement

/-!
# What can happen next

The steps a call can take, with what is observed of them and the tables they lead to. They are the
other direction of `Step.writes`: that lemma says what a step must have been, these say that the
step is possible.

From them come two ways to reach states of interest: any number of deliveries can be in progress
at once (`exists_started`), and a worker can have sent the request of one of them
(`exists_sent`).
-/

namespace OutboundWebhook

variable {P : Platform} {s : Sys P} {t : Timestamptz}

/-- An enqueue of an event that is not known. -/
theorem exists_enqueue {plugin : OutboundWebhookPlugin P} {caller : Option String}
    {now : OffsetDateTime} {request : EnqueueRequest} {delivery : NewDelivery}
    (hnew : newDelivery plugin caller now request = .ok delivery)
    (hid : delivery.deliveryId ∉ s.db.deliveries.map DeliveryRow.deliveryId)
    (hevent : delivery.eventId ∉ s.db.deliveries.map DeliveryRow.eventId) (hnow : s.now ≤ t) :
    ∃ s', Step s
        ⟨t, t, .start (.enqueue plugin caller now request),
          ⟨some (.enqueue delivery (.ok (.created (decodeDelivery (delivery.toRow t))))), none,
            some (.enqueue (.ok ⟨delivery.deliveryId, true, .queued⟩))⟩⟩ s' ∧
      s'.db.deliveries = s.db.deliveries ++ [delivery.toRow t] ∧
      s'.db.attempts = s.db.attempts ∧ s'.pending = s.pending ∧ s'.now = t := by
  have hmax := (enqueued_of_newDelivery hnew).maxAttempts_bounds
  obtain ⟨db', hok, hd, ha⟩ := insertOrGet_of_free t hmax hid hevent
  have hstep : Step s _ _ :=
    @Step.start P s t t [] (.enqueue plugin caller now request) (le_refl t) hnow
  simp only [Call.start, enqueueDelivery, hnew, transact_of_eq_ok hok] at hstep
  exact ⟨_, hstep, hd, ha, List.append_nil _, rfl⟩

/-- A dispatch that claims a delivery. -/
theorem exists_claim (hinv : s.Inv) {plugin : OutboundWebhookPlugin P} {caller : Option String}
    {prepared : PreparedWebhook P plugin.config} {begins : Timestamptz} {row : DeliveryRow}
    (hallowed : plugin.config.adminAllowed caller) (hactive : plugin.active = some prepared)
    (hcandidate : s.db.candidate begins [] plugin.config.queueName = some row)
    (hbegins : begins ≤ t) (hnow : s.now ≤ t) :
    ∃ s', Step s
        ⟨begins, t, .start (.dispatch plugin caller),
          ⟨some (.claim plugin.config.queueName (.ok (some (decodeDelivery
            (row.assign (claimAssignment begins plugin.config.leaseSeconds row)))))), none, none⟩⟩
        s' ∧
      s'.db.deliveries = s.db.deliveries.map
        (s.db.afterClaim begins [] plugin.config.queueName plugin.config.leaseSeconds) ∧
      s'.db.attempts = KeyedTable.insertAll AttemptRow.key
        ((s.db.expired begins [] plugin.config.queueName).map (leaseExpiredReceipt begins))
        s.db.attempts ∧
      s'.pending = s.pending ++ [⟨.claimed plugin prepared (decodeDelivery
        (row.assign (claimAssignment begins plugin.config.leaseSeconds row))), t⟩] ∧
      s'.now = t := by
  obtain ⟨db', hok, hd, ha⟩ := hinv.claim plugin begins []
  rw [hcandidate, Option.map_some] at hok
  have hprepared : plugin.prepared = .ok prepared := by rw [OutboundWebhookPlugin.prepared, hactive]
  have hstep : Step s _ _ := @Step.start P s begins t [] (.dispatch plugin caller) hbegins hnow
  simp only [Call.start, dispatchDelivery, hallowed, hprepared, hok, claimAnswer, Bool.not_true,
    Bool.false_eq_true, if_false] at hstep
  exact ⟨_, hstep, hd, ha, rfl, rfl⟩

/-- A request that is sent. -/
theorem exists_post {plugin : OutboundWebhookPlugin P}
    {prepared : PreparedWebhook P plugin.config} {delivery : DeliveryRecord}
    {since : Timestamptz} {now : OffsetDateTime} {before after : List (Pending P)}
    {request : SendRequest}
    (hpending : s.pending = before ++ ⟨.claimed plugin prepared delivery, since⟩ :: after)
    (hsame : endpointDiffers prepared delivery = false)
    (hrequest : signedRequest prepared delivery now = .ok request) (hsince : since ≤ t)
    (hnow : s.now ≤ t) :
    ∃ s', Step s
        ⟨t, t, .resume (.claimed plugin prepared delivery) (.clock now),
          ⟨none, some ⟨delivery, request⟩, none⟩⟩ s' ∧
      s'.db = s.db ∧ s'.pending = before ++ after ++ [⟨.posted plugin delivery, t⟩] ∧
      s'.now = t := by
  have heffect : (Task.claimed plugin prepared delivery).resume (.clock now) t s.db
      = some
        { observation := ⟨none, some ⟨delivery, request⟩, none⟩
          task := some (.posted plugin delivery)
          db := s.db } := by
    simp only [Task.resume, attemptDelivery, hsame, hrequest, Bool.false_eq_true, if_false]
  exact ⟨_, .resume (le_refl t) hnow hsince hpending heffect, rfl, rfl, rfl⟩

/-- A claimed delivery is attempted, whatever comes of it. -/
theorem exists_attempt {plugin : OutboundWebhookPlugin P}
    {prepared : PreparedWebhook P plugin.config} {delivery : DeliveryRecord}
    {since : Timestamptz} {before after : List (Pending P)}
    (hpending : s.pending = before ++ ⟨.claimed plugin prepared delivery, since⟩ :: after)
    (now : OffsetDateTime) (hsince : since ≤ t) (hnow : s.now ≤ t) :
    ∃ label s', Step s label s' ∧
      label.action = .resume (.claimed plugin prepared delivery) (.clock now) ∧
      label.begins = t := by
  have heffect : (Task.claimed plugin prepared delivery).resume (.clock now) t s.db
      = some (attemptDelivery plugin prepared delivery now t s.db) := rfl
  exact ⟨_, _, .resume (le_refl t) hnow hsince hpending heffect, rfl, rfl⟩

/-- The stretch of a result whose outcome is passed to the store. -/
theorem resume_posted {plugin : OutboundWebhookPlugin P} {delivery : DeliveryRecord}
    {receivedAt decidedAt : OffsetDateTime}
    {response : Except ClientInvocationError SendResponse} {conclusion : Conclusion}
    (hfinish : finishOutcome P plugin.config delivery response receivedAt decidedAt
      = .ok conclusion) (begins : Timestamptz) (db : Db) :
    (Task.posted plugin delivery).resume (.response response receivedAt decidedAt) begins db
      = some (conclusion.record begins db) := by
  rw [Task.resume, finishDispatch, hfinish]

/-- An HTTP result whose outcome is recorded. -/
theorem exists_finish {plugin : OutboundWebhookPlugin P} {delivery : DeliveryRecord}
    {begins since : Timestamptz} {receivedAt decidedAt : OffsetDateTime}
    {before after : List (Pending P)} {response : Except ClientInvocationError SendResponse}
    {conclusion : Conclusion} {result : Except (Abort StoreError) Unit} {db' : Db}
    (hfinish : finishOutcome P plugin.config delivery response receivedAt decidedAt
      = .ok conclusion)
    (hpending : s.pending = before ++ ⟨.posted plugin delivery, since⟩ :: after)
    (hrun : transact (conclusion.call.run begins) s.db = (result, db'))
    (hsince : since ≤ begins) (hbegins : begins ≤ t) (hnow : s.now ≤ t) :
    ∃ label s', Step s label s' ∧
      label.observation.stored = some (.outcome conclusion.call result) ∧
      label.begins = begins ∧
      label.action = .resume (.posted plugin delivery) (.response response receivedAt decidedAt) ∧
      (result = .ok () → label.observation.answer = some (.dispatch conclusion.answer)) ∧
      s'.db = db' ∧ s'.pending = before ++ after ∧ s'.now = t := by
  refine ⟨_, _, .resume hbegins hnow hsince hpending (resume_posted hfinish begins s.db), ?_, rfl,
    rfl, ?_, ?_, ?_, rfl⟩
  · simp only [Conclusion.record, hrun]
  · rintro rfl
    simp only [Conclusion.record, hrun]
  · simp only [Conclusion.record, Effect.after, hrun]
  · simp only [Conclusion.record, Effect.after, Option.map_none, Option.toList_none,
      List.append_nil]

/-- An outcome that its fence lets through and whose receipt the table accepts. -/
theorem exists_recorded {plugin : OutboundWebhookPlugin P} {delivery : DeliveryRecord}
    {begins since : Timestamptz} {receivedAt decidedAt : OffsetDateTime}
    {before after : List (Pending P)} {response : Except ClientInvocationError SendResponse}
    {call : OutcomeCall} {answer : Except (Abort AdminFlowError) DispatchResponse}
    (hfinish : finishOutcome P plugin.config delivery response receivedAt decidedAt
      = .ok ⟨call, answer⟩)
    (hpending : s.pending = before ++ ⟨.posted plugin delivery, since⟩ :: after)
    (hfits : FitsColumns call.replayCount call.receipt)
    (hcheck : (call.receipt.toRow call.deliveryId call.replayCount).violation = none)
    {row : DeliveryRow} (hrow : row ∈ s.db.deliveries)
    (hfenced : row.isFenced begins call.deliveryId call.replayCount call.receipt.attempt)
    (hsince : since ≤ begins) (hbegins : begins ≤ t) (hnow : s.now ≤ t) :
    ∃ label s', Step s label s' ∧
      label.observation.stored = some (.outcome call (.ok ())) ∧
      label.action = .resume (.posted plugin delivery) (.response response receivedAt decidedAt) ∧
      label.observation.answer = some (.dispatch answer) ∧
      s'.db.deliveries = s.db.deliveries.map (DeliveryRow.updated
        (DeliveryRow.isFenced begins call.deliveryId call.replayCount call.receipt.attempt)
        (outcomeAssignment begins call.status call.nextAvailableAt)) ∧
      s'.db.attempts = KeyedTable.insertNew AttemptRow.key
        (call.receipt.toRow call.deliveryId call.replayCount) s.db.attempts ∧
      s'.pending = before ++ after ∧ s'.now = t := by
  obtain ⟨db', hbody, hd, ha⟩ := recordOutcome_eq_ok _ _ hfits hcheck hrow hfenced
  obtain ⟨label, s', hstep, hstored, -, haction, hanswer, rfl, hp, hn⟩ :=
    exists_finish hfinish hpending (transact_of_eq_ok hbody) hsince hbegins hnow
  exact ⟨label, s', hstep, hstored, haction, hanswer rfl, hd, ha, hp, hn⟩

/-- An inspect that reads the row. -/
theorem exists_inspecting {plugin : OutboundWebhookPlugin P} {caller : Option String}
    {prepared : PreparedWebhook P plugin.config} {deliveryId : String} {row : DeliveryRow}
    (hallowed : plugin.config.adminAllowed caller) (hactive : plugin.active = some prepared)
    (hid : validDeliveryId deliveryId) (hrow : s.db.delivery deliveryId = some row)
    (hnow : s.now ≤ t) :
    ∃ label s', Step s label s' ∧ label.action = .start (.inspect plugin caller deliveryId) ∧
      s'.db = s.db ∧ s'.pending = s.pending ++ [⟨.inspecting (decodeDelivery row), t⟩] ∧
      s'.now = t := by
  have hstep : Step s _ _ :=
    @Step.start P s t t [] (.inspect plugin caller deliveryId) (le_refl t) hnow
  have hprepared : plugin.prepared = .ok prepared := by rw [OutboundWebhookPlugin.prepared, hactive]
  have hload : loadDelivery s.db deliveryId = some (decodeDelivery row) := by
    rw [loadDelivery, hrow]
    rfl
  simp only [Call.start, inspectDelivery, adminRequest, hallowed, hid, hprepared, hload,
    Bool.not_true, Bool.false_eq_true, if_false] at hstep
  exact ⟨_, _, hstep, rfl, rfl, rfl, rfl⟩

/-- An inspect that reads the newest receipt and answers. -/
theorem exists_inspected {delivery : DeliveryRecord} {since : Timestamptz}
    {before after : List (Pending P)}
    (hpending : s.pending = before ++ ⟨.inspecting delivery, since⟩ :: after) (hsince : since ≤ t)
    (hnow : s.now ≤ t) :
    ∃ label s', Step s label s' ∧ label.action = .resume (.inspecting delivery) .turn ∧
      label.observation.answer = some (.inspect (inspectResponse P
        { delivery with lastReceipt := lastReceipt s.db delivery.deliveryId })) := by
  have heffect : (Task.inspecting delivery : Task P).resume .turn t s.db
      = some (inspectReceipt delivery s.db) := rfl
  exact ⟨_, _, .resume (le_refl t) hnow hsince hpending heffect, rfl, rfl⟩

/-- A replay that reads the row. -/
theorem exists_replaying {plugin : OutboundWebhookPlugin P} {caller : Option String}
    {prepared : PreparedWebhook P plugin.config} {deliveryId : String} {row : DeliveryRow}
    (hallowed : plugin.config.adminAllowed caller) (hactive : plugin.active = some prepared)
    (hid : validDeliveryId deliveryId) (hrow : s.db.delivery deliveryId = some row)
    (hnow : s.now ≤ t) :
    ∃ label s', Step s label s' ∧ label.action = .start (.replay plugin caller deliveryId) ∧
      s'.db = s.db ∧ s'.pending = s.pending ++ [⟨.replaying (decodeDelivery row), t⟩] ∧
      s'.now = t := by
  have hstep : Step s _ _ :=
    @Step.start P s t t [] (.replay plugin caller deliveryId) (le_refl t) hnow
  have hprepared : plugin.prepared = .ok prepared := by rw [OutboundWebhookPlugin.prepared, hactive]
  have hload : loadDelivery s.db deliveryId = some (decodeDelivery row) := by
    rw [loadDelivery, hrow]
    rfl
  simp only [Call.start, replayDelivery, adminRequest, hallowed, hid, hprepared, hload,
    Bool.not_true, Bool.false_eq_true, if_false] at hstep
  exact ⟨_, _, hstep, rfl, rfl, rfl, rfl⟩

/-- A replay that has found its delivery dead-lettered goes on. -/
theorem exists_replayable {delivery : DeliveryRecord} {since : Timestamptz}
    {before after : List (Pending P)}
    (hpending : s.pending = before ++ ⟨.replaying delivery, since⟩ :: after)
    (hdead : delivery.status = .deadLetter) (hsince : since ≤ t) (hnow : s.now ≤ t) :
    ∃ label s', Step s label s' ∧ label.action = .resume (.replaying delivery) .turn ∧
      s'.db = s.db ∧ s'.pending = before ++ after ++ [⟨.replayable delivery.deliveryId, t⟩] ∧
      s'.now = t := by
  have heffect : (Task.replaying delivery : Task P).resume .turn t s.db
      = some (.pending (.replayable delivery.deliveryId) s.db) := by
    rw [Task.resume, replayReceipt, if_neg (not_not.mpr hdead)]
  exact ⟨_, _, .resume (le_refl t) hnow hsince hpending heffect, rfl, rfl, rfl, rfl⟩

/-- A replay that comes to its update. -/
theorem exists_replay_stored {deliveryId : String} {since : Timestamptz}
    {before after : List (Pending P)}
    (hpending : s.pending = before ++ ⟨.replayable deliveryId, since⟩ :: after)
    (hsince : since ≤ t) (hnow : s.now ≤ t) :
    ∃ label s', Step s label s' ∧ label.action = .resume (.replayable deliveryId) .turn ∧
      label.observation.answer
        = some (.replay (replayAnswer (transact (beginReplay t deliveryId) s.db).1)) ∧
      s'.db = (transact (beginReplay t deliveryId) s.db).2 ∧ s'.pending = before ++ after ∧
      s'.now = t := by
  have heffect : (Task.replayable deliveryId : Task P).resume .turn t s.db
      = some (replayStored deliveryId t s.db) := rfl
  refine ⟨_, _, .resume (le_refl t) hnow hsince hpending heffect, rfl, rfl, rfl, ?_, rfl⟩
  exact List.append_nil _

/-- An enqueue of a known event. -/
theorem exists_enqueue_again {plugin : OutboundWebhookPlugin P} {caller : Option String}
    {now : OffsetDateTime} {request : EnqueueRequest} {delivery : NewDelivery}
    (hnew : newDelivery plugin caller now request = .ok delivery) {row : DeliveryRow}
    (hrow : row ∈ s.db.deliveries) (hevent : row.eventId = delivery.eventId) (hnow : s.now ≤ t) :
    ∃ s', Step s
        ⟨t, t, .start (.enqueue plugin caller now request),
          ⟨some (.enqueue delivery (.ok (if delivery.same (decodeDelivery row) then
            .existing (decodeDelivery row) else .conflict))), none,
            some (.enqueue (enqueueAnswer delivery.deliveryId
              (.ok (if delivery.same (decodeDelivery row) then
                .existing (decodeDelivery row) else .conflict))))⟩⟩ s' ∧
      s'.db = s.db := by
  have hmax := (enqueued_of_newDelivery hnew).maxAttempts_bounds
  have hlookup :
      KeyedTable.lookup DeliveryRow.eventId delivery.eventId s.db.deliveries = some row :=
    hevent ▸ KeyedTable.lookup_of_mem s.db.deliveries_event_id_key hrow
  have hstep : Step s _ _ :=
    @Step.start P s t t [] (.enqueue plugin caller now request) (le_refl t) hnow
  simp only [Call.start, enqueueDelivery, hnew,
    transact_of_eq_ok (insertOrGet_of_event hmax hlookup)] at hstep
  exact ⟨_, hstep, rfl⟩

/-! ### Deliveries in progress -/

/-- An enqueue that is accepted by an active instance, and an operator who may dispatch there. -/
structure Accepted (P : Platform) where
  plugin : OutboundWebhookPlugin P
  prepared : PreparedWebhook P plugin.config
  active : plugin.active = some prepared
  producer : Option String
  operator : Option String
  operator_allowed : plugin.config.adminAllowed operator
  now : OffsetDateTime
  request : EnqueueRequest
  delivery : NewDelivery
  accepted : newDelivery plugin producer now request = .ok delivery

namespace Accepted

/-- The row once it has been claimed at the time of its insert. -/
def row (order : Accepted P) (t : Timestamptz) : DeliveryRow :=
  (order.delivery.toRow t).assign
    (claimAssignment t order.plugin.config.leaseSeconds (order.delivery.toRow t))

/-- The delivery is free to be stored and due at `t`. -/
structure FitsIn (order : Accepted P) (db : Db) (t : Timestamptz) : Prop where
  deliveryId : order.delivery.deliveryId ∉ db.deliveries.map DeliveryRow.deliveryId
  eventId : order.delivery.eventId ∉ db.deliveries.map DeliveryRow.eventId
  due : toTimestamptz order.delivery.availableAt ≤ t

end Accepted

/-- Every delivery is in progress, under a lease after `t`. -/
def Db.AllBusy (db : Db) (t : Timestamptz) : Prop :=
  ∀ row ∈ db.deliveries, row.status = .delivering ∧
    ∃ lease, row.leaseExpiresAt = some lease ∧ t < lease

theorem Db.AllBusy.not_claimable {db : Db} (h : db.AllBusy t) (queueName : String)
    {row : DeliveryRow} (hrow : row ∈ db.deliveries) :
    row.isWaiting t = false ∧ row.isExpired t queueName = false := by
  obtain ⟨hstatus, lease, hlease, hlt⟩ := h row hrow
  refine ⟨by simp [DeliveryRow.isWaiting, hstatus], ?_⟩
  simp [DeliveryRow.isExpired, DeliveryRow.leaseExpired, hlease, not_le.mpr hlt]

/-- While all other deliveries are in progress, a waiting one is claimed and they stay as they
are. -/
theorem Db.claim_of_allBusy {db db' : Db} {row : DeliveryRow} (hbusy : db.AllBusy t)
    (hd : db'.deliveries = db.deliveries ++ [row]) (hwaiting : row.isWaiting t)
    (hleft : row.attempts < row.maxAttempts) :
    db'.candidate t [] row.queueName = some row ∧ db'.expired t [] row.queueName = [] ∧
      ∀ leaseSeconds, db'.deliveries.map (db'.afterClaim t [] row.queueName leaseSeconds)
        = db.deliveries ++ [row.assign (claimAssignment t leaseSeconds row)] := by
  have hmem : row ∈ db'.deliveries := Db.mem_of_last hd
  have hexpired : db'.expired t [] row.queueName = [] := by
    rw [List.eq_nil_iff_forall_not_mem]
    intro other hother
    obtain ⟨hotherMem, hotherExpired, -⟩ := Db.mem_expired hother
    rw [hd, List.mem_append, List.mem_singleton] at hotherMem
    rcases hotherMem with hold | rfl
    · rw [(hbusy.not_claimable row.queueName hold).2] at hotherExpired
      exact nomatch hotherExpired
    · have hstatus := (DeliveryRow.isExpired_iff.mp hotherExpired).2.1
      rcases (DeliveryRow.isWaiting_iff.mp hwaiting).1 with hs | hs <;> simp [hs] at hstatus
  have hcandidate : db'.candidate t [] row.queueName = some row := by
    refine Db.candidate_eq_some_iff.mpr
      ⟨⟨hmem, rfl, hleft, .inl hwaiting, List.not_mem_nil⟩, ?_⟩
    intro other hother
    obtain ⟨hotherMem, -, -, hwhy, -⟩ := hother
    rw [hd, List.mem_append, List.mem_singleton] at hotherMem
    rcases hotherMem with hold | rfl
    · rcases hwhy with hwhy | hwhy
      · rw [(hbusy.not_claimable row.queueName hold).1] at hwhy
        exact nomatch hwhy
      · rw [hexpired] at hwhy
        exact nomatch hwhy
    · exact le_rfl
  refine ⟨hcandidate, hexpired, ?_⟩
  intro leaseSeconds
  rw [hd, List.map_append, List.map_singleton, Db.afterClaim_of_candidate hcandidate]
  congr 1
  conv_rhs => rw [← List.map_id db.deliveries]
  refine List.map_congr_left ?_
  intro other hother
  refine Db.afterClaim_of_other (by rw [hd]; exact List.mem_append_left _ hother) ?_ ?_
  · intro he
    rw [hexpired] at he
    exact nomatch he
  · intro hc
    rw [hcandidate, Option.some.injEq] at hc
    subst hc
    rw [(hbusy.not_claimable row.queueName hother).1] at hwaiting
    exact nomatch hwaiting

namespace Accepted

variable (order : Accepted P)

theorem enqueued : Enqueued order.plugin order.request order.delivery :=
  enqueued_of_newDelivery order.accepted

/-- The row is busy until its lease expires. -/
theorem busy {t' : Timestamptz}
    (ht' : t' < t + seconds order.plugin.config.leaseSeconds) :
    (order.row t).status = .delivering ∧
      ∃ lease, (order.row t).leaseExpiresAt = some lease ∧ t' < lease :=
  ⟨rfl, _, rfl, ht'⟩

theorem lt_lease (t : Timestamptz) : t < t + seconds order.plugin.config.leaseSeconds := by
  have hlease := order.plugin.valid.leaseSeconds
  have hpos : 0 < order.plugin.config.leaseSeconds * 1000000 := by omega
  exact Int.lt_add_of_pos_right t hpos

/-- The endpoint of the row is the one of the instance that has created it. -/
theorem endpointDiffers_eq_false (row : DeliveryRow)
    (hcontent : row.content = (order.delivery.toRow 0).content) :
    endpointDiffers order.prepared (decodeDelivery row) = false := by
  obtain ⟨endpoint, hfixed, horigin⟩ := order.enqueued.endpointOrigin
  have hurl : row.endpointUrl = order.delivery.endpointUrl := congrArg Content.endpointUrl hcontent
  have horiginRow : row.endpointOrigin = order.delivery.endpointOrigin :=
    congrArg Content.endpointOrigin hcontent
  have hendpoint : endpoint = order.prepared.endpoint := by
    have heq := hfixed.symm.trans order.prepared.endpoint_eq
    exact Except.ok.inj heq
  simp only [endpointDiffers, decodeDelivery, hurl, order.enqueued.endpointUrl, horiginRow, horigin,
    hendpoint, order.prepared.endpointOrigin_eq, bne_self_eq_false, Bool.or_self]

end Accepted

/-- The step records no outcome. -/
def Label.NoOutcome (label : Label P) : Prop :=
  ∀ call result, label.observation.stored ≠ some (.outcome call result)

/-- The claim of the only delivery that is not in progress. -/
theorem exists_claimed (hs : (system P).Reachable s) (order : Accepted P) {db : Db}
    (hbusy : db.AllBusy t) (hd : s.db.deliveries = db.deliveries ++ [order.delivery.toRow t])
    (hdue : toTimestamptz order.delivery.availableAt ≤ t) (hnow : s.now ≤ t) :
    ∃ label s', Step s label s' ∧ label.NoOutcome ∧
      s'.db.deliveries = db.deliveries ++ [order.row t] ∧ s'.db.attempts = s.db.attempts ∧
      s'.pending = s.pending ++
        [⟨.claimed order.plugin order.prepared (decodeDelivery (order.row t)), t⟩] ∧
      s'.now = t := by
  have hqueue : (order.delivery.toRow t).queueName = order.plugin.config.queueName :=
    order.enqueued.queueName
  have hwaiting : (order.delivery.toRow t).isWaiting t :=
    DeliveryRow.isWaiting_iff.mpr ⟨.inl rfl, hdue⟩
  have hleft : (order.delivery.toRow t).attempts < (order.delivery.toRow t).maxAttempts := by
    have hmax := order.enqueued.maxAttempts_bounds
    show 0 < order.delivery.maxAttempts
    omega
  obtain ⟨hcandidate, hexpired, hafter⟩ := Db.claim_of_allBusy hbusy hd hwaiting hleft
  rw [hqueue] at hcandidate hexpired hafter
  obtain ⟨s', hstep, hd', ha', hp', hn'⟩ := exists_claim (reachable_inv hs)
    order.operator_allowed order.active hcandidate (le_refl t) hnow
  refine ⟨_, s', hstep, ?_, ?_, ?_, hp', hn'⟩
  · exact fun call result h => nomatch h
  · rw [hd', hafter]
    rfl
  · rw [ha', hexpired]
    rfl

/-- **A delivery can be enqueued and claimed** while all others are in progress. -/
theorem exists_started (hs : (system P).Reachable s) (order : Accepted P)
    (hfits : order.FitsIn s.db t) (hbusy : s.db.AllBusy t) (hnow : s.now ≤ t) :
    ∃ labels s', (system P).Path s labels s' ∧ (∀ label ∈ labels, label.NoOutcome) ∧
      s'.db.deliveries = s.db.deliveries ++ [order.row t] ∧ s'.db.attempts = s.db.attempts ∧
      s'.pending = s.pending ++
        [⟨.claimed order.plugin order.prepared (decodeDelivery (order.row t)), t⟩] ∧
      s'.now = t := by
  obtain ⟨s₁, hstep₁, hd₁, ha₁, hp₁, hn₁⟩ :=
    exists_enqueue order.accepted hfits.deliveryId hfits.eventId hnow
  obtain ⟨label, s₂, hstep₂, hquiet, hd₂, ha₂, hp₂, hn₂⟩ :=
    exists_claimed (hs.step hstep₁) order hbusy hd₁ hfits.due (le_of_eq hn₁)
  have hpath : (system P).Path s [_, label] s₂ :=
    TransitionSystem.path_cons.mpr ⟨s₁, hstep₁, TransitionSystem.path_cons.mpr ⟨s₂, hstep₂, rfl⟩⟩
  refine ⟨_, s₂, hpath, ?_, hd₂, ha₂.trans ha₁, ?_, hn₂⟩
  · intro other hother
    rcases List.mem_pair.mp hother with rfl | rfl
    · exact fun call result h => nomatch h
    · exact hquiet
  · rw [hp₂, hp₁]

/-- **Any number of deliveries can be in progress at once.** -/
theorem exists_all_started (orders : List (Accepted P)) (t : Timestamptz)
    (hids : (orders.map fun order => order.delivery.deliveryId).Nodup)
    (hevents : (orders.map fun order => order.delivery.eventId).Nodup)
    (hdue : ∀ order ∈ orders, toTimestamptz order.delivery.availableAt ≤ t) :
    ∃ s, (system P).Reachable s ∧ s.now = t ∧
      s.db.deliveries = orders.map (fun order => order.row t) ∧ s.db.attempts = [] := by
  induction orders using List.reverseRecOn with
  | nil => exact ⟨⟨Db.empty, t, []⟩, ⟨[], _, ⟨rfl, rfl⟩, rfl⟩, rfl, rfl, rfl⟩
  | append_singleton orders order ih =>
    rw [List.map_append, List.nodup_append] at hids hevents
    obtain ⟨s, hs, hnow, hd, ha⟩ := ih hids.1 hevents.1 fun order horder =>
      hdue order (List.mem_append_left _ horder)
    have hbusy : s.db.AllBusy t := by
      intro row hrow
      rw [hd] at hrow
      obtain ⟨started, -, rfl⟩ := List.mem_map.mp hrow
      exact started.busy (started.lt_lease t)
    have hidsRow : s.db.deliveries.map DeliveryRow.deliveryId
        = orders.map fun order => order.delivery.deliveryId := by
      rw [hd, List.map_map]
      rfl
    have heventsRow : s.db.deliveries.map DeliveryRow.eventId
        = orders.map fun order => order.delivery.eventId := by
      rw [hd, List.map_map]
      rfl
    have hfits : order.FitsIn s.db t := by
      refine ⟨?_, ?_, hdue order (by simp)⟩
      · intro hmem
        rw [hidsRow] at hmem
        exact hids.2.2 _ hmem _ (by simp) rfl
      · intro hmem
        rw [heventsRow] at hmem
        exact hevents.2.2 _ hmem _ (by simp) rfl
    obtain ⟨labels, s', hpath, -, hd', ha', -, hnow'⟩ :=
      exists_started hs order hfits hbusy (le_of_eq hnow)
    refine ⟨s', hs.path hpath, hnow', ?_, ha'.trans ha⟩
    rw [hd', hd, List.map_append, List.map_singleton]

/-- **A worker can have sent the request of the only delivery there is.** -/
theorem exists_sent (order : Accepted P) {clock : OffsetDateTime} {request : SendRequest}
    (hrequest : signedRequest order.prepared (decodeDelivery (order.row t)) clock = .ok request)
    (hdue : toTimestamptz order.delivery.availableAt ≤ t) :
    ∃ labels s, (system P).Run labels s ∧ (∀ label ∈ labels, label.NoOutcome) ∧
      s.db.deliveries = [order.row t] ∧ s.db.attempts = [] ∧
      s.pending = [⟨.posted order.plugin (decodeDelivery (order.row t)), t⟩] ∧ s.now = t := by
  have hinit : (system P).Run [] ⟨Db.empty, t, []⟩ := ⟨_, ⟨rfl, rfl⟩, rfl⟩
  obtain ⟨labels, s₁, hpath, hquiet, hd₁, ha₁, hp₁, hn₁⟩ := exists_started hinit.reachable order
    ⟨List.not_mem_nil, List.not_mem_nil, hdue⟩ (fun row hrow => nomatch hrow) (le_refl t)
  obtain ⟨s₂, hstep, hdb, hp₂, hn₂⟩ := @exists_post P s₁ t _ _ _ t clock [] [] request hp₁
    (order.endpointDiffers_eq_false _ rfl) hrequest (le_refl t) (le_of_eq hn₁)
  refine ⟨_, s₂, (hinit.append hpath).snoc hstep, ?_, hdb ▸ hd₁, hdb ▸ ha₁, hp₂, hn₂⟩
  intro label hlabel
  rcases List.mem_append.mp hlabel with hlabel | hlabel
  · exact hquiet label hlabel
  · rw [List.mem_singleton.mp hlabel]
    exact fun call result h => nomatch h

/-! ### Deliveries that are delivered -/

variable (P) in
/-- The outcome of a response with status 200. -/
def deliveredOutcome (delivery : DeliveryRecord) (body : Bytes) (receivedAt : OffsetDateTime) :
    OutcomeCall where
  deliveryId := delivery.deliveryId
  replayCount := delivery.replayCount
  receipt :=
    { attempt := delivery.attempts
      outcome := "delivered"
      httpStatus := some 200
      responseSha256 := some (sha256Hex P body)
      occurredAt := receivedAt }
  status := .delivered
  nextAvailableAt := none

theorem finishOutcome_delivered (config : OutboundWebhookConfig) (delivery : DeliveryRecord)
    (body : Bytes) (receivedAt decidedAt : OffsetDateTime) :
    finishOutcome P config delivery (.ok ⟨200, body⟩) receivedAt decidedAt
      = .ok ⟨deliveredOutcome P delivery body receivedAt,
          dispatchResponse P delivery.deliveryId .delivered
            (deliveredOutcome P delivery body receivedAt).receipt⟩ := by
  simp [finishOutcome, finishResult, classify, conclude, deliveredOutcome, bind, Except.bind,
    pure, Except.pure]

/-- **A response with status 200 to a live attempt.** Nothing is said of the receipts before. -/
theorem exists_delivered (order : Accepted P) {claimedAt since begins : Timestamptz}
    {before after : List (Pending P)}
    (hpending : s.pending
      = before ++ ⟨.posted order.plugin (decodeDelivery (order.row claimedAt)), since⟩ :: after)
    (hrow : order.row claimedAt ∈ s.db.deliveries) (body : Bytes) (receivedAt : OffsetDateTime)
    (hlive : begins < claimedAt + seconds order.plugin.config.leaseSeconds)
    (hsince : since ≤ begins) (hbegins : begins ≤ t) (hnow : s.now ≤ t) :
    ∃ label s', Step s label s' ∧
      label.observation.stored = some (.outcome
        (deliveredOutcome P (decodeDelivery (order.row claimedAt)) body receivedAt) (.ok ())) ∧
      label.action = .resume (.posted order.plugin (decodeDelivery (order.row claimedAt)))
        (.response (.ok ⟨200, body⟩) receivedAt receivedAt) ∧
      label.observation.answer = some (.dispatch (dispatchResponse P order.delivery.deliveryId
        .delivered (deliveredOutcome P (decodeDelivery (order.row claimedAt)) body
          receivedAt).receipt)) ∧
      s'.db.delivery order.delivery.deliveryId = some ((order.row claimedAt).assign
        (outcomeAssignment begins .delivered none (order.row claimedAt))) ∧
      s'.db.attempts = KeyedTable.insertNew AttemptRow.key
        ((deliveredOutcome P (decodeDelivery (order.row claimedAt)) body receivedAt).receipt.toRow
          order.delivery.deliveryId 0) s.db.attempts ∧
      s'.pending = before ++ after ∧ s'.now = t := by
  have hcheck : ((deliveredOutcome P (decodeDelivery (order.row claimedAt)) body
      receivedAt).receipt.toRow order.delivery.deliveryId 0).violation = none := by
    refine AttemptRow.violation_eq_none_iff.mpr ⟨?_, ?_⟩
    · show (1 : ℤ) ≤ 0 + 1 ∧ (0 : ℤ) + 1 ≤ 100
      decide
    · intro status hstatus
      obtain rfl : 200 = status := Option.some.inj hstatus
      decide
  have hfits : FitsColumns 0
      (deliveredOutcome P (decodeDelivery (order.row claimedAt)) body receivedAt).receipt :=
    fitsColumns_of_check (by decide) hcheck
  have hfenced : (order.row claimedAt).isFenced begins order.delivery.deliveryId 0 (0 + 1) :=
    DeliveryRow.isFenced_iff.mpr ⟨rfl, rfl, rfl, _, rfl, hlive⟩
  obtain ⟨label, s', hstep, hstored, haction, hanswer, hd, ha, hp, hn⟩ :=
    exists_recorded (finishOutcome_delivered order.plugin.config _ body receivedAt receivedAt)
      hpending hfits hcheck hrow hfenced hsince hbegins hnow
  refine ⟨label, s', hstep, hstored, haction, hanswer, ?_, ha, hp, hn⟩
  have hdelivery : s.db.delivery order.delivery.deliveryId = some (order.row claimedAt) :=
    Db.delivery_of_mem hrow
  rw [Db.delivery_of_map hd (DeliveryRow.updated_deliveryId _ _), hdelivery, Option.map_some,
    DeliveryRow.updated]
  exact congrArg some (if_pos hfenced)

end OutboundWebhook
