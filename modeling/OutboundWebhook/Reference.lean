import OutboundWebhook.Execution
import OutboundWebhook.Foundations.Calendar
import OutboundWebhook.Foundations.Sha256

/-!
# A concrete platform

The real digests, the real text of an instant, and the URL parser and the schema planner on the
inputs of one deployment. Runs that are exhibited elsewhere run on it.

The deployment is the one of the plugin's own tests: one endpoint, one queue, one producer and one
operator.
-/

namespace OutboundWebhook

/-! ### The platform -/

theorem isFraction_fraction (nanoseconds : ℕ) :
    IsFraction ((Calendar.fraction nanoseconds).map fun c => c.val.toUInt8) := by
  rw [Calendar.fraction]
  cases hdigits : Calendar.fractionDigits nanoseconds with
  | nil => exact .inl rfl
  | cons first rest =>
    refine .inr ⟨(first :: rest).map fun c => c.val.toUInt8, by simp, ?_, rfl⟩
    intro d hd
    obtain ⟨c, hc, rfl⟩ := List.mem_map.mp hd
    obtain ⟨n, rfl⟩ := Calendar.exists_digit_of_mem_fractionDigits (hdigits ▸ hc)
    exact Calendar.isAsciiDigit_digit n

theorem forall₂_dateTime (t : ℤ) :
    List.Forall₂ (fun (p : UInt8 → Bool) b => p b) dateTimeShape
      ((Calendar.dateTime t).map fun c => c.val.toUInt8) := by
  have hhyphen : '-'.toUInt8 = 0x2d := by decide
  have hcolon : ':'.toUInt8 = 0x3a := by decide
  have hletter : 'T'.toUInt8 = 0x54 := by decide
  simp [dateTimeShape, Calendar.dateTime, Calendar.fourDigits, Calendar.twoDigits,
    Calendar.isAsciiDigit_digit, hhyphen, hcolon, hletter]

theorem isRfc3339Utc_rfc3339 {t : ℤ} {s : String} (h : Calendar.rfc3339 t = some s) :
    IsRfc3339Utc s :=
  ⟨_, _, forall₂_dateTime t, isFraction_fraction _, Calendar.asBytes_rfc3339 h⟩

/-- The endpoint of the deployment. -/
def hooksUrl : Url where
  scheme := "https"
  hostStr := some "hooks.example.test"
  username := ""
  password := none
  query := none
  fragment := none
  asStr := "https://hooks.example.test/events"
  originAscii := "https://hooks.example.test"

/-- The endpoint it is moved to. -/
def movedUrl : Url :=
  { hooksUrl with asStr := "https://hooks.example.test/v2/events" }

/-- A platform. -/
def reference : Platform where
  sha256 := Sha256.digest
  length_sha256 := Sha256.length_digest
  hmacSha256 key := some (Sha256.hmac key)
  formatRfc3339 t :=
    match Calendar.rfc3339 t.unixTimestampNanos with
    | some s => .ok s
    | none => .error "The year component cannot be formatted into the requested format."
  formatRfc3339_shape t s h := by
    split at h
    · rename_i s' hs
      rw [Except.ok.injEq] at h
      exact isRfc3339Utc_rfc3339 (h ▸ hs)
    · exact nomatch h
  parseUrl value :=
    if value = "https://hooks.example.test/events" then some hooksUrl
    else if value = "https://hooks.example.test/v2/events" then some movedUrl
    else none
  schemaPlan schema :=
    if schema = "webhooks" then .ok () else .error "the schema is not one of the deployment"

/-! ### The plugin -/

/-- The configuration of the deployment, with any number of attempts. -/
def hooksConfig (maxAttempts : ℤ) : OutboundWebhookConfig where
  schema := "webhooks"
  databaseUrlSecret := "webhook/database-url"
  signingSecret := "webhook/signing-key"
  endpointUrl := "https://hooks.example.test/events"
  queueName := "webhooks"
  maxAttempts := maxAttempts
  maxPayloadBytes := 262144
  leaseSeconds := 30
  retryBaseSeconds := 5
  retryMaxSeconds := 300
  producerInstances := ["orders"]
  adminInstances := ["operations"]

theorem fixedEndpoint_hooks :
    fixedEndpoint reference "https://hooks.example.test/events" = .ok hooksUrl :=
  rfl

/-- What an instance of the deployment has prepared. -/
def hooksPrepared (maxAttempts : ℤ) : PreparedWebhook reference (hooksConfig maxAttempts) where
  endpoint := hooksUrl
  endpoint_eq := fixedEndpoint_hooks
  endpointOrigin := "https://hooks.example.test"
  endpointOrigin_eq := rfl
  signingKey := asBytes "0123456789abcdef0123456789abcdef"
  signingKey_length := by decide +kernel

/-- An active instance of the deployment. -/
def hooksPlugin (maxAttempts : ℤ)
    (validated : (hooksConfig maxAttempts).validate reference = .ok ()) :
    OutboundWebhookPlugin reference where
  config := hooksConfig maxAttempts
  validated := validated
  active := some (hooksPrepared maxAttempts)

/-- The same deployment with the other endpoint. -/
def movedConfig : OutboundWebhookConfig :=
  { hooksConfig 2 with endpointUrl := "https://hooks.example.test/v2/events" }

def movedPrepared : PreparedWebhook reference movedConfig where
  endpoint := movedUrl
  endpoint_eq := rfl
  endpointOrigin := "https://hooks.example.test"
  endpointOrigin_eq := rfl
  signingKey := (hooksPrepared 2).signingKey
  signingKey_length := (hooksPrepared 2).signingKey_length

def movedPlugin : OutboundWebhookPlugin reference where
  config := movedConfig
  validated := by decide +kernel
  active := some movedPrepared

theorem validate_one : (hooksConfig 1).validate reference = .ok () := by decide +kernel

theorem validate_two : (hooksConfig 2).validate reference = .ok () := by decide +kernel

/-! ### Orders -/

/-- An event of the producer, with an empty payload. -/
def hooksRequest (eventId : String) : EnqueueRequest where
  eventId := eventId
  eventType := "order.created"
  payload := { entries := [], sorted := List.Pairwise.nil }

def hooksDelivery (maxAttempts : ℤ) (eventId : String) (now : OffsetDateTime) : NewDelivery where
  deliveryId := stableDeliveryId reference "https://hooks.example.test/events" eventId
  eventId := eventId
  eventType := "order.created"
  endpointUrl := "https://hooks.example.test/events"
  endpointOrigin := "https://hooks.example.test"
  payloadSnapshot := payloadSnapshot (hooksRequest eventId)
  payloadSha256 := sha256Hex reference (payloadSnapshot (hooksRequest eventId))
  queueName := "webhooks"
  maxAttempts := maxAttempts
  availableAt := databaseTimestampNow now

/-- Every name of an event fits the bound on the payload. -/
theorem length_payloadSnapshot_hooks {eventId : String} (h : validEventName eventId) :
    (payloadSnapshot (hooksRequest eventId)).length ≤ 262144 := by
  have hname : eventId.toList.length ≤ 256 := by
    simp only [validEventName, Bool.and_eq_true, decide_eq_true_eq] at h
    have hchars := (length_asBytes_ofList eventId.toList).1
    rw [String.ofList_toList] at hchars
    exact hchars.trans h.1.2
  have hevent := Json.length_renderString_le eventId
  have hlength := (length_asBytes_ofList (Json.object
    [("event_id", .string eventId), ("event_type", .string "order.created"),
      ("payload", .object [])]).render).2
  have hrender : ((Json.object [("event_id", .string eventId),
      ("event_type", .string "order.created"), ("payload", .object [])]).render).length
      = (Json.renderString eventId).length + 55 := by
    simp only [Json.render, Json.renderMembers, List.length_append, List.length_cons,
      List.length_nil]
    rw [show (Json.renderString "event_id").length = 10 by decide +kernel,
      show (Json.renderString "event_type").length = 12 by decide +kernel,
      show (Json.renderString "order.created").length = 15 by decide +kernel,
      show (Json.renderString "payload").length = 9 by decide +kernel]
    omega
  exact hlength.trans (by omega)

theorem newDelivery_hooks {maxAttempts : ℤ}
    (validated : (hooksConfig maxAttempts).validate reference = .ok ()) {eventId : String}
    (h : validEventName eventId) (now : OffsetDateTime) :
    newDelivery (hooksPlugin maxAttempts validated) (some "orders") now (hooksRequest eventId)
      = .ok (hooksDelivery maxAttempts eventId now) := by
  have hproducer : (hooksPlugin maxAttempts validated).config.producerAllowed (some "orders")
      = true := rfl
  have hprepared : (hooksPlugin maxAttempts validated).prepared = .ok (hooksPrepared maxAttempts) :=
    rfl
  have htype : validEventName (hooksRequest eventId).eventType = true := by
    show validEventName "order.created" = true
    decide +kernel
  have hname : validEventName (hooksRequest eventId).eventId = true := h
  have hsize : ¬(hooksPlugin maxAttempts validated).config.maxPayloadBytes
      < (payloadSnapshot (hooksRequest eventId)).length :=
    not_lt.mpr (length_payloadSnapshot_hooks h)
  simp only [newDelivery, hproducer, hprepared, htype, hname, Bool.not_true, Bool.or_self,
    Bool.false_eq_true, if_false, if_neg hsize]
  rfl

/-- An enqueue of the event, and the operator. -/
def hooksOrder {maxAttempts : ℤ} (validated : (hooksConfig maxAttempts).validate reference = .ok ())
    {eventId : String} (h : validEventName eventId) (now : OffsetDateTime) :
    Accepted reference where
  plugin := hooksPlugin maxAttempts validated
  prepared := hooksPrepared maxAttempts
  active := rfl
  producer := some "orders"
  operator := some "operations"
  operator_allowed := rfl
  now := now
  request := hooksRequest eventId
  delivery := hooksDelivery maxAttempts eventId now
  accepted := newDelivery_hooks validated h now

theorem validEventName_one : validEventName "order-1" := by decide +kernel

theorem validEventName_two : validEventName "order-2" := by decide +kernel

/-- The first order of the deployment. -/
def firstOrder : Accepted reference := hooksOrder validate_two validEventName_one 0

/-- The second order, a second later. -/
def secondOrder : Accepted reference :=
  hooksOrder validate_two validEventName_two ⟨1000000000, by decide⟩

/-! ### Runs -/

/-- Every instance of the deployment can sign at the epoch. -/
theorem exists_signedRequest (maxAttempts : ℤ) (delivery : DeliveryRecord) :
    ∃ request, signedRequest (hooksPrepared maxAttempts) delivery 0 = .ok request := by
  have htime : formatTime reference 0 = .ok "1970-01-01T00:00:00Z" := by decide +kernel
  simp only [signedRequest, htime]
  exact ⟨_, rfl⟩

/-- The first order has been sent when it was enqueued. -/
theorem exists_first_sent :
    ∃ labels s, (system reference).Run labels s ∧ (∀ label ∈ labels, label.NoOutcome) ∧
      s.db.deliveries = [firstOrder.row 0] ∧ s.db.attempts = [] ∧
      s.pending = [⟨.posted firstOrder.plugin (decodeDelivery (firstOrder.row 0)), 0⟩] ∧
      s.now = 0 := by
  obtain ⟨request, hrequest⟩ := exists_signedRequest 2 (decodeDelivery (firstOrder.row 0))
  exact exists_sent firstOrder hrequest (le_refl 0)

/-- The first order has been sent and delivered. -/
theorem exists_first_delivered :
    ∃ labels s label t, (system reference).Run labels s ∧ (∀ l ∈ labels, l.NoOutcome) ∧
      (system reference).step s label t ∧
      s.db.deliveries = [firstOrder.row 0] ∧ s.db.attempts = [] ∧
      label.observation.stored = some (.outcome
        (deliveredOutcome reference (decodeDelivery (firstOrder.row 0)) [] 0) (.ok ())) ∧
      t.db.delivery firstOrder.delivery.deliveryId = some ((firstOrder.row 0).assign
        (outcomeAssignment 1 .delivered none (firstOrder.row 0))) ∧
      t.db.attempts = [(deliveredOutcome reference (decodeDelivery (firstOrder.row 0)) []
        0).receipt.toRow firstOrder.delivery.deliveryId 0] := by
  obtain ⟨labels, s, hrun, hquiet, hd, ha, hp, hn⟩ := exists_first_sent
  have hrow : firstOrder.row 0 ∈ s.db.deliveries := Db.mem_of_singleton hd
  obtain ⟨label, t, hstep, hstored, -, -, hdelivery, hattempts, -⟩ :=
    @exists_delivered reference s 1 firstOrder 0 0 1 [] [] hp hrow [] 0 (by decide) (by decide)
      (le_refl 1) (by rw [hn]; decide)
  refine ⟨labels, s, label, t, hrun, hquiet, hstep, hd, ha, hstored, hdelivery, ?_⟩
  rw [hattempts, ha]
  rfl

/-- The result of the first order, when it is neither a delivery nor a runtime failure. -/
def firstFailed (response : SendResponse) (status : DeliveryStatus)
    (nextAvailableAt : Option OffsetDateTime) : OutcomeCall where
  deliveryId := firstOrder.delivery.deliveryId
  replayCount := 0
  receipt := (classify reference (decodeDelivery (firstOrder.row 0)) 0 (.ok response)).1
  status := status
  nextAvailableAt := nextAvailableAt

/-- The clock when the retry of the first order is scheduled. -/
def retryReading : OffsetDateTime := ⟨2000000999, by decide⟩

/-- Five seconds after the last whole microsecond. -/
def retryTime : OffsetDateTime := ⟨7000000000, by decide⟩

theorem finishOutcome_retried :
    finishOutcome reference firstOrder.plugin.config (decodeDelivery (firstOrder.row 0))
        (.ok ⟨500, []⟩) 0 retryReading
      = .ok ⟨firstFailed ⟨500, []⟩ .retryScheduled (some retryTime),
          dispatchResponse reference firstOrder.delivery.deliveryId .retryScheduled
            (firstFailed ⟨500, []⟩ .retryScheduled (some retryTime)).receipt⟩ := by
  rfl

/-- The first order when its retry has been scheduled. -/
def firstRetry : DeliveryRow :=
  (firstOrder.row 0).assign
    (outcomeAssignment 2000001 .retryScheduled (some retryTime) (firstOrder.row 0))

/-- The first order is answered with status 500, and claimed again when its retry is due. -/
theorem exists_first_retried :
    ∃ s label s' call next t delivery', (system reference).Reachable s ∧
      (system reference).step s label s' ∧
      label.action = .resume (.posted firstOrder.plugin (decodeDelivery (firstOrder.row 0)))
        (.response (.ok ⟨500, []⟩) 0 retryReading) ∧
      label.observation.outcomeOf firstOrder.delivery.deliveryId = some call ∧
      call.status = .retryScheduled ∧ (system reference).step s' next t ∧
      next.observation.claimOf firstOrder.delivery.deliveryId = some delivery' ∧
      delivery'.replayCount = 0 ∧ next.begins = 7000000 := by
  obtain ⟨labels, s, hrun, -, hd, -, hp, hn⟩ := exists_first_sent
  have hrow : firstOrder.row 0 ∈ s.db.deliveries := Db.mem_of_singleton hd
  have hcheck : ((firstFailed ⟨500, []⟩ .retryScheduled (some retryTime)).receipt.toRow
      firstOrder.delivery.deliveryId 0).violation = none := by decide
  have hfenced : (firstOrder.row 0).isFenced 2000001 firstOrder.delivery.deliveryId 0 1 :=
    DeliveryRow.isFenced_iff.mpr ⟨rfl, rfl, rfl, _, rfl, by decide⟩
  obtain ⟨label, s', hstep, hstored, haction, -, hd', -, -, hn'⟩ :=
    @exists_recorded reference s 2000001 firstOrder.plugin (decodeDelivery (firstOrder.row 0))
      2000001 0 0 retryReading [] [] (.ok ⟨500, []⟩) _ _ finishOutcome_retried hp
      (fitsColumns_of_check (by decide) hcheck) hcheck _ hrow hfenced
      (by decide) (le_refl 2000001) (by rw [hn]; decide)
  have hs' := hrun.reachable.step hstep
  have hdue : s'.db.deliveries = [firstRetry] := by
    rw [hd', hd]
    exact congrArg (fun row => [row]) (if_pos hfenced)
  obtain ⟨hcandidate, -, -⟩ := @Db.claim_of_allBusy 7000000 Db.empty s'.db _
    (fun row hrow => nomatch hrow) hdue (DeliveryRow.isWaiting_iff.mpr ⟨.inr rfl, by decide⟩)
    (by decide)
  obtain ⟨t, hclaim, -⟩ := @exists_claim reference s' 7000000 (reachable_inv hs')
    firstOrder.plugin _ firstOrder.prepared 7000000 _ firstOrder.operator_allowed firstOrder.active
    hcandidate (le_refl 7000000) (by rw [hn']; decide)
  have houtcome : label.observation.outcomeOf firstOrder.delivery.deliveryId
      = some (firstFailed ⟨500, []⟩ .retryScheduled (some retryTime)) := by
    rw [Observation.outcomeOf, hstored, Option.bind_some]
    exact Stored.outcomeOf_of_eq (by rfl)
  refine ⟨s, label, s', _, _, t, decodeDelivery (firstRetry.assign
    (claimAssignment 7000000 30 firstRetry)), hrun.reachable, hstep, haction, houtcome, ?_, hclaim,
    ?_, rfl, rfl⟩
  · rfl
  · rw [Observation.claimOf, Option.bind_some]
    exact Stored.claimOf_of_eq rfl

theorem finishOutcome_refused :
    finishOutcome reference firstOrder.plugin.config (decodeDelivery (firstOrder.row 0))
        (.ok ⟨600, []⟩) 0 0
      = .ok ⟨firstFailed ⟨600, []⟩ .deadLetter none,
          dispatchResponse reference firstOrder.delivery.deliveryId .deadLettered
            (firstFailed ⟨600, []⟩ .deadLetter none).receipt⟩ := by
  rfl

/-- No receipt can hold a status of 600. -/
theorem run_refused (db : Db) :
    (firstFailed ⟨600, []⟩ .deadLetter none).run 1 db = .error (.error (.database
      "insert delivery receipt" "webhook_attempt_status_valid")) := by
  refine recordOutcome_of_violation ⟨by decide, by decide, ?_⟩ ?_
  · intro status hstatus
    obtain rfl : 600 = status := Option.some.inj hstatus
    decide
  · decide

/-- The first order has been sent, and the response to it is refused. -/
theorem exists_first_refused :
    ∃ labels s label t call, (system reference).Run labels s ∧ (system reference).step s label t ∧
      label.observation.stored = some (.outcome call (.error (.error (.database
        "insert delivery receipt" "webhook_attempt_status_valid")))) := by
  obtain ⟨labels, s, hrun, -, -, -, hp, hn⟩ := exists_first_sent
  obtain ⟨label, t, hstep, hstored, -⟩ := @exists_finish reference s 1 firstOrder.plugin _ 1 0 0 0
    [] [] (.ok ⟨600, []⟩) _ _ _ finishOutcome_refused hp (transact_of_eq_error (run_refused s.db))
    (by decide) (le_refl 1) (by rw [hn]; decide)
  exact ⟨labels, s, label, t, _, hrun, hstep, hstored⟩

/-- Both orders have been claimed, one after the other, and the request of the second one has been
sent. -/
theorem exists_two_claimed :
    ∃ s, (system reference).Reachable s ∧
      s.db.deliveries = [firstOrder.row 1000000, secondOrder.row 2000000] ∧ s.db.attempts = [] ∧
      s.pending = [⟨.claimed firstOrder.plugin firstOrder.prepared
          (decodeDelivery (firstOrder.row 1000000)), 1000000⟩,
        ⟨.posted secondOrder.plugin (decodeDelivery (secondOrder.row 2000000)), 3000000⟩] ∧
      s.now = 3000000 := by
  have hinit : (system reference).Reachable ⟨Db.empty, 0, []⟩ := ⟨[], _, ⟨rfl, rfl⟩, rfl⟩
  obtain ⟨_, s₁, hpath₁, -, hd₁, ha₁, hp₁, hn₁⟩ := @exists_started reference _ 1000000 hinit
    firstOrder ⟨List.not_mem_nil, List.not_mem_nil, by decide⟩ (fun row hrow => nomatch hrow)
    (by decide)
  have hs₁ := hinit.path hpath₁
  have hfits : secondOrder.FitsIn s₁.db 2000000 := by
    refine ⟨?_, ?_, by decide⟩
    · rw [hd₁]
      decide +kernel
    · rw [hd₁]
      decide +kernel
  have hbusy : s₁.db.AllBusy 2000000 := by
    intro row hrow
    rw [hd₁] at hrow
    obtain rfl : row = firstOrder.row 1000000 := List.mem_singleton.mp hrow
    exact firstOrder.busy (by decide)
  obtain ⟨_, s₂, hpath₂, -, hd₂, ha₂, hp₂, hn₂⟩ := exists_started hs₁ secondOrder hfits hbusy
    (by rw [hn₁]; decide)
  rw [hp₁] at hp₂
  obtain ⟨request, hrequest⟩ := exists_signedRequest 2 (decodeDelivery (secondOrder.row 2000000))
  obtain ⟨s₃, hpost, hdb₃, hp₃, hn₃⟩ := @exists_post reference s₂ 3000000 _ _ _ 2000000 0
    [⟨.claimed firstOrder.plugin firstOrder.prepared (decodeDelivery (firstOrder.row 1000000)),
      1000000⟩] [] request hp₂ (secondOrder.endpointDiffers_eq_false _ rfl) hrequest (by decide)
    (by rw [hn₂]; decide)
  refine ⟨s₃, (hs₁.path hpath₂).step hpost, ?_, ?_, hp₃, hn₃⟩
  · rw [hdb₃, hd₂, hd₁]
    rfl
  · rw [hdb₃, ha₂, ha₁]
    rfl

/-- An inspect of the first order that reads the row before the order is claimed, and the newest
receipt after it has been delivered. -/
theorem exists_first_inspected :
    ∃ before first after s₁ s₁' s label t, (system reference).Run before s₁ ∧
      (system reference).step s₁ first s₁' ∧ (system reference).Path s₁' after s ∧
      (system reference).step s label t ∧
      (∃ plugin caller, first.action = .start (.inspect plugin caller
        firstOrder.delivery.deliveryId)) ∧
      label.observation.answer = some (.inspect (inspectResponse reference
        { decodeDelivery (firstOrder.delivery.toRow 0) with
          lastReceipt := lastReceipt s.db firstOrder.delivery.deliveryId })) ∧
      s.db.attempts = [(deliveredOutcome reference (decodeDelivery (firstOrder.row 0)) []
        0).receipt.toRow firstOrder.delivery.deliveryId 0] := by
  have hinit : (system reference).Run [] ⟨Db.empty, 0, []⟩ := ⟨_, ⟨rfl, rfl⟩, rfl⟩
  have hid : validDeliveryId firstOrder.delivery.deliveryId := by decide +kernel
  obtain ⟨request, hrequest⟩ := exists_signedRequest 2 (decodeDelivery (firstOrder.row 0))
  obtain ⟨s₁, henqueue, hd₁, ha₁, hp₁, hn₁⟩ := @exists_enqueue reference ⟨Db.empty, 0, []⟩ 0
    _ _ _ _ _ firstOrder.accepted List.not_mem_nil List.not_mem_nil (le_refl 0)
  have hs₁ := hinit.snoc henqueue
  have hmem₁ : firstOrder.delivery.toRow 0 ∈ s₁.db.deliveries := Db.mem_of_last hd₁
  have hrow₁ : s₁.db.delivery firstOrder.delivery.deliveryId = some (firstOrder.delivery.toRow 0) :=
    Db.delivery_of_mem hmem₁
  obtain ⟨first, s₂, hfirst, haction, hdb₂, hp₂, hn₂⟩ := exists_inspecting
    firstOrder.operator_allowed firstOrder.active hid hrow₁ (le_of_eq hn₁)
  have hs₂ := hs₁.snoc hfirst
  obtain ⟨claim, s₃, hclaim, -, hd₃, ha₃, hp₃, hn₃⟩ := @exists_claimed reference s₂ 0
    hs₂.reachable firstOrder Db.empty (fun row hrow => nomatch hrow) (hdb₂ ▸ hd₁) (le_refl 0)
    (le_of_eq hn₂)
  rw [hp₂, hp₁] at hp₃
  obtain ⟨s₄, hpost, hdb₄, hp₄, hn₄⟩ := @exists_post reference s₃ 0 _ _ _ 0 0
    [⟨.inspecting (decodeDelivery (firstOrder.delivery.toRow 0)), 0⟩] [] request hp₃
    (firstOrder.endpointDiffers_eq_false _ rfl) hrequest (le_refl 0) (le_of_eq hn₃)
  have hrow₄ : firstOrder.row 0 ∈ s₄.db.deliveries := Db.mem_of_last (hdb₄ ▸ hd₃)
  obtain ⟨outcome, s₅, houtcome, -, -, -, -, ha₅, hp₅, hn₅⟩ := @exists_delivered reference s₄ 1
    firstOrder 0 0 1 [⟨.inspecting (decodeDelivery (firstOrder.delivery.toRow 0)), 0⟩] [] hp₄
    hrow₄ [] 0 (by decide) (by decide) (le_refl 1) (by rw [hn₄]; decide)
  obtain ⟨label, t, hstep, -, hanswer⟩ := @exists_inspected reference s₅ 1
    (decodeDelivery (firstOrder.delivery.toRow 0)) 0 [] [] hp₅ (by decide) (le_of_eq hn₅)
  have hpath : (system reference).Path s₂ [claim, _, outcome] s₅ :=
    TransitionSystem.path_cons.mpr ⟨s₃, hclaim, TransitionSystem.path_cons.mpr ⟨s₄, hpost,
      TransitionSystem.path_cons.mpr ⟨s₅, houtcome, rfl⟩⟩⟩
  refine ⟨_, first, _, s₁, s₂, s₅, label, t, hs₁, hfirst, hpath, hstep,
    ⟨firstOrder.plugin, firstOrder.operator, haction⟩, hanswer, ?_⟩
  rw [ha₅, hdb₄, ha₃, hdb₂, ha₁]
  rfl

/-- The first order, stored for one endpoint and claimed by the instance with the other one. -/
theorem exists_first_moved :
    ∃ s, (system reference).Reachable s ∧ s.db.deliveries = [firstOrder.row 0] ∧
      s.pending = [⟨.claimed movedPlugin movedPrepared (decodeDelivery (firstOrder.row 0)), 0⟩] ∧
      s.now = 0 := by
  have hinit : (system reference).Reachable ⟨Db.empty, 0, []⟩ := ⟨[], _, ⟨rfl, rfl⟩, rfl⟩
  obtain ⟨s₁, henqueue, hd₁, ha₁, hp₁, hn₁⟩ := @exists_enqueue reference ⟨Db.empty, 0, []⟩ 0
    _ _ _ _ _ firstOrder.accepted List.not_mem_nil List.not_mem_nil (le_refl 0)
  have hs₁ := hinit.step henqueue
  obtain ⟨hcandidate, -, hafter⟩ := @Db.claim_of_allBusy 0 Db.empty s₁.db
    (firstOrder.delivery.toRow 0) (fun row hrow => nomatch hrow) hd₁ (by decide) (by decide)
  obtain ⟨s₂, hclaim, hd₂, ha₂, hp₂, hn₂⟩ := @exists_claim reference s₁ 0 (reachable_inv hs₁)
    movedPlugin (some "operations") movedPrepared 0 _ rfl rfl hcandidate (le_refl 0) (le_of_eq hn₁)
  refine ⟨s₂, hs₁.step hclaim, ?_, ?_, hn₂⟩
  · exact hd₂.trans (hafter 30)
  · rw [hp₂, hp₁]
    rfl

end OutboundWebhook
