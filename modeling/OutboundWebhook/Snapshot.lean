import OutboundWebhook.Idempotency
import OutboundWebhook.Foundations.JsonText
import OutboundWebhook.Foundations.JsonEquality

/-!
# How canonical the payload snapshot is

A duplicate is recognised by its octets: `insert_or_get` compares the stored snapshot with the one
of the repeated request. The snapshot loses nothing (`payloadSnapshot_eq_iff`). The members of the
payload itself are in the order of their names, because the payload is a sorted map. The members of
an object inside it are in the order they were written.

So two requests for the same event with the same payload, seen as JSON values, have one snapshot
exactly when the objects inside the payload list their members in the same order
(`EnqueueRequest.NestedInOrder`). Where they do not, the second request is refused as a conflict.

## Main results

* `payload_snapshot_canonical_iff`
* `nested_order_conflicts`
-/

namespace OutboundWebhook

variable {P : Platform}

/-! ### Requests as values -/

/-- The numbers of the payload are integers, and no object in it has two members of one name. -/
structure EnqueueRequest.IntegerPayload (request : EnqueueRequest) : Prop where
  integral : (Json.object request.payload.entries).Integral
  wellFormed : (Json.object request.payload.entries).WellFormed

/-- The same event, with the same type and the same payload. -/
structure EnqueueRequest.Agrees (x y : EnqueueRequest) : Prop where
  eventId : x.eventId = y.eventId
  eventType : x.eventType = y.eventType
  payload : Json.Same (.object x.payload.entries) (.object y.payload.entries)

/-- The objects inside the payloads list their members in the same order. -/
def EnqueueRequest.NestedInOrder (x y : EnqueueRequest) : Prop :=
  ∀ p ∈ x.payload.entries.zip y.payload.entries, Json.SameOrder p.1.2 p.2.2

variable (P) in
/-- After an enqueue of `x`, one of `y` at the same instance finds the delivery it has created,
whatever has become of it. -/
def EnqueueRequest.IsDuplicateOf (y x : EnqueueRequest) : Prop :=
  ∀ (plugin : OutboundWebhookPlugin P) (caller caller' : Option String) (now now' : OffsetDateTime)
    (first again : NewDelivery) (begins : Timestamptz) (db : Db) (row : DeliveryRow),
    newDelivery plugin caller now x = .ok first → newDelivery plugin caller' now' y = .ok again →
      row ∈ db.deliveries → row.content = (first.toRow 0).content →
        insertOrGet begins again db = .ok (.existing (decodeDelivery row), db)

/-! ### The snapshot -/

/-- What the snapshot is the text of. -/
def envelope (request : EnqueueRequest) : Json :=
  .object
    [("event_id", .string request.eventId),
      ("event_type", .string request.eventType),
      ("payload", .object request.payload.entries)]

theorem integral_envelope {request : EnqueueRequest} (h : request.IntegerPayload) :
    (envelope request).Integral := by
  refine .object (fun _ h => nomatch h) ?_
  intro member hmember
  simp only [List.mem_cons, List.not_mem_nil, or_false] at hmember
  rcases hmember with rfl | rfl | rfl
  · exact .string fun _ h => nomatch h
  · exact .string fun _ h => nomatch h
  · exact h.integral

/-- **The snapshot loses nothing.** -/
theorem payloadSnapshot_eq_iff {x y : EnqueueRequest} (hx : x.IntegerPayload)
    (hy : y.IntegerPayload) :
    payloadSnapshot x = payloadSnapshot y ↔
      x.eventId = y.eventId ∧ x.eventType = y.eventType ∧
        x.payload.entries = y.payload.entries := by
  constructor
  · intro h
    have henvelope : envelope x = envelope y :=
      Json.toVec_inj (integral_envelope hx) (integral_envelope hy) h
    simpa [envelope] using henvelope
  · rintro ⟨hid, htype, hentries⟩
    rw [payloadSnapshot, payloadSnapshot, hid, htype, hentries]

/-- A sorted map lists the same names in the same order. -/
theorem BTreeMap.names_eq {m m' : BTreeMap}
    (h : (m.entries.map Prod.fst).Perm (m'.entries.map Prod.fst)) :
    m.entries.map Prod.fst = m'.entries.map Prod.fst := by
  have hsorted : ∀ m : BTreeMap, (m.entries.map Prod.fst).Pairwise fun a b => a < b :=
    fun m => List.pairwise_map.mpr m.sorted
  refine List.Perm.eq_of_pairwise ?_ (hsorted m) (hsorted m') h
  intro a b _ _ hab hba
  exact absurd (hab.trans hba) (lt_irrefl a)

/-- **Between equal values and equal snapshots** stands the order of the nested members. -/
theorem EnqueueRequest.Agrees.snapshot_eq_iff {x y : EnqueueRequest} (h : x.Agrees y)
    (hx : x.IntegerPayload) (hy : y.IntegerPayload) :
    payloadSnapshot x = payloadSnapshot y ↔ x.NestedInOrder y := by
  rw [payloadSnapshot_eq_iff hx hy]
  constructor
  · rintro ⟨-, -, hentries⟩ p hp
    rw [hentries] at hp
    rw [← Json.eq_of_mem_zip_self hp]
    exact Json.SameOrder.refl p.1.2
  · intro horder
    obtain ⟨hid, htype, hpayload⟩ := h
    have hnames : (x.payload.entries.map Prod.fst).Perm (y.payload.entries.map Prod.fst) := by
      cases hpayload with
      | object hnames => exact hnames
    have hsame := hpayload.eq_of_sameOrder (.object (BTreeMap.names_eq hnames) horder)
    exact ⟨hid, htype, Json.object.inj hsame⟩

theorem agrees_of_snapshot_eq {x y : EnqueueRequest} (hx : x.IntegerPayload)
    (hy : y.IntegerPayload) (h : payloadSnapshot x = payloadSnapshot y) : x.Agrees y := by
  obtain ⟨hid, htype, hentries⟩ := (payloadSnapshot_eq_iff hx hy).mp h
  refine ⟨hid, htype, ?_⟩
  rw [← hentries]
  exact Json.Same.refl hx.wellFormed

/-- A request with the same snapshot repeats the delivery. -/
theorem isDuplicateOf_of_snapshot_eq {x y : EnqueueRequest} (hid : x.eventId = y.eventId)
    (htype : x.eventType = y.eventType) (h : payloadSnapshot x = payloadSnapshot y) :
    y.IsDuplicateOf P x := by
  intro plugin caller caller' now now' first again begins db row hfirst hagain hrow hcontent
  have hnew := enqueued_of_newDelivery hfirst
  have hnew' := enqueued_of_newDelivery hagain
  have hevent : row.eventId = again.eventId := by
    rw [hnew'.eventId, ← hid, ← hnew.eventId]
    exact congrArg Content.eventId hcontent
  have hlookup : KeyedTable.lookup DeliveryRow.eventId again.eventId db.deliveries = some row :=
    hevent ▸ KeyedTable.lookup_of_mem db.deliveries_event_id_key hrow
  have horigin : again.endpointOrigin = first.endpointOrigin := by
    obtain ⟨endpoint, hendpoint, heq⟩ := hnew.endpointOrigin
    obtain ⟨endpoint', hendpoint', heq'⟩ := hnew'.endpointOrigin
    rw [heq, heq', Except.ok.inj (hendpoint'.symm.trans hendpoint)]
  have hrepeats : again.Repeats first :=
    ⟨by rw [hnew'.eventType, hnew.eventType, htype], by rw [hnew'.endpointUrl, hnew.endpointUrl],
      horigin, by rw [hnew'.payloadSnapshot, hnew.payloadSnapshot, h],
      by rw [hnew'.queueName, hnew.queueName]⟩
  rw [insertOrGet_of_event hnew'.maxAttempts_bounds hlookup,
    if_pos ((hnew'.same_iff hnew hcontent).mpr hrepeats)]

/-- **When the snapshot is canonical.** For two requests whose payloads have integers for numbers,
the snapshots are equal exactly if the requests agree, and agreeing requests are duplicates of each
other: this holds exactly if the objects inside agreeing payloads list their members in the same
order. -/
theorem payload_snapshot_canonical_iff (P : Platform) (x y : EnqueueRequest)
    (hx : x.IntegerPayload) (hy : y.IntegerPayload) :
    ((payloadSnapshot x = payloadSnapshot y ↔ x.Agrees y) ∧
        (x.Agrees y → y.IsDuplicateOf P x)) ↔
      (x.Agrees y → x.NestedInOrder y) := by
  constructor
  · rintro ⟨hcanonical, -⟩ hagrees
    exact (hagrees.snapshot_eq_iff hx hy).mp (hcanonical.mpr hagrees)
  · intro horder
    have hequal : x.Agrees y → payloadSnapshot x = payloadSnapshot y :=
      fun hagrees => (hagrees.snapshot_eq_iff hx hy).mpr (horder hagrees)
    refine ⟨⟨agrees_of_snapshot_eq hx hy, hequal⟩, ?_⟩
    intro hagrees
    exact isDuplicateOf_of_snapshot_eq hagrees.eventId hagrees.eventType (hequal hagrees)

/-! ### One object inside a payload -/

/-- An order whose payload holds one object of two numbers, in the order they were written. -/
def nestedRequest (first second : String × ℤ) : EnqueueRequest where
  eventId := "order-1"
  eventType := "order.created"
  payload :=
    { entries := [("order", .object [(first.1, .number first.2), (second.1, .number second.2)])]
      sorted := List.pairwise_singleton _ _ }

theorem integerPayload_nested {first second : String × ℤ} (h : first.1 ≠ second.1) :
    (nestedRequest first second).IntegerPayload := by
  have hnumbers : ∀ {p : Json → Prop}, (∀ n, p (.number n)) →
      ∀ member ∈ [(first.1, Json.number first.2), (second.1, Json.number second.2)],
        member.2.Everywhere p := by
    intro p hp member hmember
    simp only [List.mem_cons, List.not_mem_nil, or_false] at hmember
    rcases hmember with rfl | rfl
    · exact .number (hp _)
    · exact .number (hp _)
  constructor
  · refine .object (fun _ h => nomatch h) ?_
    intro member hmember
    rw [List.mem_singleton.mp hmember]
    exact .object (fun _ h => nomatch h) (hnumbers fun _ _ h => nomatch h)
  · refine .object ?_ ?_
    · intro members hmembers
      rw [← Json.object.inj hmembers]
      exact List.nodup_singleton _
    · intro member hmember
      rw [List.mem_singleton.mp hmember]
      refine .object ?_ (hnumbers fun _ _ h => nomatch h)
      intro members hmembers
      rw [← Json.object.inj hmembers]
      exact List.nodup_cons.mpr ⟨fun hmem => h (List.mem_singleton.mp hmem),
        List.nodup_singleton _⟩

/-- The order of the two does not matter to the value. -/
theorem agrees_nested {first second : String × ℤ} (h : first.1 ≠ second.1) :
    (nestedRequest first second).Agrees (nestedRequest second first) := by
  refine ⟨rfl, rfl, .object (List.Perm.refl _) ?_⟩
  intro m hm m' hm' _
  rw [List.mem_singleton.mp hm, List.mem_singleton.mp hm']
  refine .object (List.Perm.swap _ _ _) ?_
  intro m hm m' hm' hname
  simp only [List.mem_cons, List.not_mem_nil, or_false] at hm hm'
  rcases hm with rfl | rfl <;> rcases hm' with rfl | rfl
  · exact absurd hname h
  · exact .number _
  · exact .number _
  · exact absurd hname.symm h

/-- The instance of the deployment accepts both. -/
theorem exists_newDelivery_nested {first second : String × ℤ}
    (hsize : (payloadSnapshot (nestedRequest first second)).length ≤ 262144)
    (now : OffsetDateTime) :
    ∃ delivery, newDelivery (hooksPlugin 2 validate_two) (some "orders") now
      (nestedRequest first second) = .ok delivery := by
  have hproducer : (hooksPlugin 2 validate_two).config.producerAllowed (some "orders") = true := rfl
  have hprepared : (hooksPlugin 2 validate_two).prepared = .ok (hooksPrepared 2) := rfl
  have hname : validEventName (nestedRequest first second).eventId = true := validEventName_one
  have htype : validEventName (nestedRequest first second).eventType = true := by
    show validEventName "order.created" = true
    decide +kernel
  have hlimit : ¬(hooksPlugin 2 validate_two).config.maxPayloadBytes
      < (payloadSnapshot (nestedRequest first second)).length := not_lt.mpr hsize
  simp only [newDelivery, hproducer, hprepared, hname, htype, Bool.not_true, Bool.or_self,
    Bool.false_eq_true, if_false, if_neg hlimit]
  exact ⟨_, rfl⟩

/-- **The same payload, refused.** The second request differs from the first in the order of two
members of a nested object. Their snapshots differ, and the second is answered with a conflict. -/
theorem nested_order_conflicts :
    ∃ x y : EnqueueRequest, x.IntegerPayload ∧ y.IntegerPayload ∧ x.Agrees y ∧
      payloadSnapshot x ≠ payloadSnapshot y ∧
      ∃ s label t label' u plugin caller now, (system reference).Run [] s ∧
        (system reference).step s label t ∧
        label.action = .start (.enqueue plugin caller now x) ∧
        (∃ response, label.observation.answer = some (.enqueue (.ok response)) ∧
          response.created = true) ∧
        (system reference).step t label' u ∧
        label'.action = .start (.enqueue plugin caller now y) ∧
        label'.observation.answer
          = some (.enqueue (.error (.error (.domain .idempotencyConflict)))) := by
  have hdiffers : payloadSnapshot (nestedRequest ("a", 1) ("b", 2))
      ≠ payloadSnapshot (nestedRequest ("b", 2) ("a", 1)) := by decide +kernel
  obtain ⟨first, hfirst⟩ := @exists_newDelivery_nested ("a", 1) ("b", 2) (by decide +kernel) 0
  obtain ⟨again, hagain⟩ := @exists_newDelivery_nested ("b", 2) ("a", 1) (by decide +kernel) 0
  have hnew := enqueued_of_newDelivery hfirst
  have hnew' := enqueued_of_newDelivery hagain
  have hinit : (system reference).Run [] ⟨Db.empty, 0, []⟩ := ⟨_, ⟨rfl, rfl⟩, rfl⟩
  obtain ⟨t, hstep, hd, -, -, hnow⟩ := @exists_enqueue reference ⟨Db.empty, 0, []⟩ 0
    _ _ _ _ _ hfirst List.not_mem_nil List.not_mem_nil (le_refl 0)
  have hrow : first.toRow 0 ∈ t.db.deliveries := Db.mem_of_last hd
  have hevent : (first.toRow 0).eventId = again.eventId := by
    rw [hnew'.eventId]
    exact hnew.eventId
  obtain ⟨u, hstep', -⟩ := exists_enqueue_again hagain hrow hevent (le_of_eq hnow)
  have hconflict : again.same (decodeDelivery (first.toRow 0)) = false := by
    refine Bool.eq_false_iff.mpr fun hsame => hdiffers ?_
    have hrepeats := (hnew'.same_iff hnew rfl).mp hsame
    rw [← hnew.payloadSnapshot, ← hnew'.payloadSnapshot, hrepeats.payloadSnapshot]
  refine ⟨_, _, integerPayload_nested (by decide), integerPayload_nested (by decide),
    agrees_nested (by decide), hdiffers, _, _, t, _, u, _, _, _, hinit, hstep, rfl, ⟨_, rfl, rfl⟩,
    hstep', rfl, ?_⟩
  simp [hconflict, enqueueAnswer]

/-- A request with a nested object, and itself. -/
theorem payload_snapshot_canonical_nested :
    (payloadSnapshot (nestedRequest ("a", 1) ("b", 2))
        = payloadSnapshot (nestedRequest ("a", 1) ("b", 2)) ↔
      (nestedRequest ("a", 1) ("b", 2)).Agrees (nestedRequest ("a", 1) ("b", 2))) ∧
    ((nestedRequest ("a", 1) ("b", 2)).Agrees (nestedRequest ("a", 1) ("b", 2)) →
      (nestedRequest ("a", 1) ("b", 2)).IsDuplicateOf reference
        (nestedRequest ("a", 1) ("b", 2))) := by
  have hpayload := @integerPayload_nested ("a", 1) ("b", 2) (by decide)
  refine (payload_snapshot_canonical_iff reference _ _ hpayload hpayload).mpr ?_
  intro _ p hp
  rw [← Json.eq_of_mem_zip_self hp]
  exact Json.SameOrder.refl p.1.2

end OutboundWebhook
