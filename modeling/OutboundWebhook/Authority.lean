import OutboundWebhook.Failures
import OutboundWebhook.Inspection
import OutboundWebhook.Settlement

/-!
# Authority

Two allowlists of caller instances are all the authority there is: producers enqueue, and admins
dispatch, inspect and replay. The checks are made once, in the first stretch of a call. What the
later stretches of it do, possibly long after and interleaved with any number of other calls, they
do on the strength of that first one.

A step of a run is therefore judged by the call it is a stretch of (`StretchOf`). If the call had no
authority, the step is its first and only stretch; it changes nothing, sends nothing, and answers
with a refusal that is a function of the call alone, so that a stranger learns nothing about the
tables. If it had, the delivery it changes is one the call may change (`Call.MayChange`): an enqueue
only adds the delivery of its own event, a dispatch only touches deliveries of the queue of its own
instance, a replay only the dead-lettered delivery it names, and an inspect none.

Two things are not part of the authority, and the statement shows it: a replay may name a delivery
of any instance on the schema, and a dispatch may record an outcome for a delivery of its queue that
was stored for another endpoint.

## Main results

* `authority`
-/

namespace OutboundWebhook

variable {P : Platform}

/-! ### Calls with and without authority -/

/-- The caller is on the list of an active instance, and the argument is well formed. -/
def Call.Authorised (call : Call P) : Prop := call.admitted ∧ call.plugin.active.isSome

/-- The answer to a call without authority. -/
def Call.refusal : Call P → Answer
  | .enqueue plugin caller _ request => .enqueue (.error (.error
      (if !plugin.config.producerAllowed caller then .domain .forbidden
      else if !validEventName request.eventId || !validEventName request.eventType then
        .domain .invalidEvent
      else .runtime (.pluginFailure "Outbound Webhook Plugin is not active"))))
  | .dispatch plugin caller => .dispatch (.error (.error
      (if !plugin.config.adminAllowed caller then .dispatch .forbidden
      else .runtime (.pluginFailure "Outbound Webhook Plugin is not active"))))
  | .inspect plugin caller deliveryId => .inspect (.error (.error
      (if !plugin.config.adminAllowed caller then .inspect .forbidden
      else if !validDeliveryId deliveryId then .inspect .invalidDelivery
      else .runtime (.pluginFailure "Outbound Webhook Plugin is not active"))))
  | .replay plugin caller deliveryId => .replay (.error (.error
      (if !plugin.config.adminAllowed caller then .replay .forbidden
      else if !validDeliveryId deliveryId then .replay .invalidDelivery
      else .runtime (.pluginFailure "Outbound Webhook Plugin is not active"))))

/-- What a call may change of the delivery `id`. -/
inductive Call.MayChange (db : Db) : Call P → String → Prop
  | enqueue {plugin : OutboundWebhookPlugin P} {caller : Option String} {now : OffsetDateTime}
      {request : EnqueueRequest}
      (hnew : db.delivery (stableDeliveryId P plugin.config.endpointUrl request.eventId) = none) :
      MayChange db (.enqueue plugin caller now request)
        (stableDeliveryId P plugin.config.endpointUrl request.eventId)
  | dispatch {plugin : OutboundWebhookPlugin P} {caller : Option String} {id : String}
      {row : DeliveryRow} (hrow : db.delivery id = some row)
      (hqueue : row.queueName = plugin.config.queueName) : MayChange db (.dispatch plugin caller) id
  | replay {plugin : OutboundWebhookPlugin P} {caller : Option String} {id : String}
      {row : DeliveryRow} (hrow : db.delivery id = some row) (hstatus : row.status = .deadLetter) :
      MayChange db (.replay plugin caller id) id

/-- What a call may send. -/
inductive Call.MaySend (post : Post) : Call P → Prop
  | dispatch {plugin : OutboundWebhookPlugin P} {caller : Option String} {endpoint : Url}
      (hqueue : post.delivery.queueName = plugin.config.queueName)
      (hstored : post.delivery.endpointUrl = plugin.config.endpointUrl)
      (hendpoint : fixedEndpoint P plugin.config.endpointUrl = .ok endpoint)
      (hurl : post.request.url = endpoint.asStr) : MaySend post (.dispatch plugin caller)

/-- The tasks the stretches of a call leave. -/
inductive Call.Leaves : Call P → Task P → Prop
  | claimed {plugin : OutboundWebhookPlugin P} {caller : Option String}
      {prepared : PreparedWebhook P plugin.config} {delivery : DeliveryRecord}
      (hqueue : delivery.queueName = plugin.config.queueName) :
      Leaves (.dispatch plugin caller) (.claimed plugin prepared delivery)
  | posted {plugin : OutboundWebhookPlugin P} {caller : Option String} {delivery : DeliveryRecord}
      (hqueue : delivery.queueName = plugin.config.queueName) :
      Leaves (.dispatch plugin caller) (.posted plugin delivery)
  | inspecting {plugin : OutboundWebhookPlugin P} {caller : Option String}
      {delivery : DeliveryRecord} :
      Leaves (.inspect plugin caller delivery.deliveryId) (.inspecting delivery)
  | replaying {plugin : OutboundWebhookPlugin P} {caller : Option String}
      {delivery : DeliveryRecord} :
      Leaves (.replay plugin caller delivery.deliveryId) (.replaying delivery)
  | replayable {plugin : OutboundWebhookPlugin P} {caller : Option String} {deliveryId : String} :
      Leaves (.replay plugin caller deliveryId) (.replayable deliveryId)

/-- The step after a run is a stretch of the call. -/
inductive StretchOf (labels : List (Label P)) (s : Sys P) (label : Label P) : Call P → Prop
  | first {call : Call P} (haction : label.action = .start call) : StretchOf labels s label call
  | next {call : Call P} {task : Task P} {input : Input}
      (haction : label.action = .resume task input) (hleaves : call.Leaves task)
      (hstarted : (system P).Once labels s fun _ first => first.action = .start call) :
      StretchOf labels s label call

/-! ### Without authority -/

theorem adminRequest_refused {ε : Type} {plugin : OutboundWebhookPlugin P} {caller : Option String}
    {deliveryId : String} (forbidden invalidDelivery : ε) (runtime : RuntimeFailure → ε)
    (hinactive : (plugin.config.adminAllowed caller && validDeliveryId deliveryId) = true →
      plugin.active = none) :
    adminRequest plugin caller deliveryId forbidden invalidDelivery runtime = .error
      (if !plugin.config.adminAllowed caller then forbidden
      else if !validDeliveryId deliveryId then invalidDelivery
      else runtime (.pluginFailure "Outbound Webhook Plugin is not active")) := by
  rw [adminRequest]
  by_cases hallowed : plugin.config.adminAllowed caller = true
  · by_cases hvalid : validDeliveryId deliveryId = true
    · have hnone : plugin.active = none := hinactive (by rw [hallowed, hvalid, Bool.and_self])
      simp [hallowed, hvalid, OutboundWebhookPlugin.prepared_of_none hnone]
    · simp [hallowed, hvalid]
  · simp [hallowed]

/-- A call without authority ends at once, with its refusal. -/
theorem Call.start_of_not_authorised {call : Call P} (h : ¬call.Authorised) (begins : Timestamptz)
    (locked : List String) (db : Db) :
    call.start begins locked db = .ended call.refusal db := by
  have hinactive : call.admitted = true → call.plugin.active = none := by
    intro hadmitted
    by_contra hactive
    exact h ⟨hadmitted, Option.isSome_iff_ne_none.mpr hactive⟩
  cases call with
  | enqueue plugin caller now request =>
    rw [Call.start, enqueueDelivery, newDelivery, Call.refusal]
    by_cases hallowed : plugin.config.producerAllowed caller = true
    · cases hnames : !validEventName request.eventId || !validEventName request.eventType with
      | true => simp [hallowed]
      | false =>
        have hnone : plugin.active = none := by
          refine hinactive ?_
          rw [Bool.or_eq_false_iff, Bool.not_eq_false', Bool.not_eq_false'] at hnames
          simp [Call.admitted, hallowed, hnames]
        simp [hallowed, OutboundWebhookPlugin.prepared_of_none hnone]
    · simp [hallowed]
  | dispatch plugin caller =>
    rw [Call.start, dispatchDelivery, Call.refusal]
    by_cases hallowed : plugin.config.adminAllowed caller = true
    · have hnone : plugin.active = none := hinactive hallowed
      simp [hallowed, OutboundWebhookPlugin.prepared_of_none hnone]
    · simp [hallowed]
  | inspect plugin caller deliveryId =>
    rw [Call.start, inspectDelivery, adminRequest_refused _ _ _ hinactive, Call.refusal]
  | replay plugin caller deliveryId =>
    rw [Call.start, replayDelivery, adminRequest_refused _ _ _ hinactive, Call.refusal]

/-! ### The queue of a claim -/

section Claims

variable {now : Timestamptz} {locked : List String} {queueName : String} {leaseSeconds : ℤ}
  {db db' : Db}

theorem exists_of_bind_eq_ok {α β : Type} {body : Transaction α} {f : α → Transaction β}
    {r : β × Db} (h : (body >>= f) db = .ok r) :
    ∃ a db₁, body db = .ok (a, db₁) ∧ f a db₁ = .ok r := by
  cases hbody : body db with
  | error e =>
    rw [bind_of_eq_error hbody] at h
    cases h
  | ok value =>
    obtain ⟨a, db₁⟩ := value
    rw [bind_of_eq_ok hbody] at h
    exact ⟨a, db₁, rfl, h⟩

theorem eq_ok_of_transact {α : Type} {body : Transaction α} {a : α}
    (h : transact body db = (.ok a, db')) : body db = .ok (a, db') := by
  cases hbody : body db with
  | error e =>
    rw [transact_of_eq_error hbody] at h
    cases h
  | ok value =>
    obtain ⟨b, db₁⟩ := value
    rw [transact_of_eq_ok hbody] at h
    cases h
    rfl

/-- Whatever a claim finds in the tables, it returns its candidate. -/
theorem claimDue_ok_inv {result : Option DeliveryRecord}
    (h : claimDue now locked queueName leaseSeconds db = .ok (result, db')) :
    result = (db.candidate now locked queueName).map fun row =>
      decodeDelivery (row.assign (claimAssignment now leaseSeconds row)) := by
  by_cases hfits : FitsI32 leaseSeconds
  · rw [claimDue, i32_bind hfits, bind_of_eq_ok get_apply] at h
    obtain ⟨_, db₁, -, h⟩ := exists_of_bind_eq_ok h
    obtain ⟨_, db₂, -, h⟩ := exists_of_bind_eq_ok h
    obtain ⟨_, db₃, -, h⟩ := exists_of_bind_eq_ok h
    cases h
    rfl
  · rw [claimDue, i32_of_not_fits hfits] at h
    cases h

/-- A claimed delivery is one of the queue. -/
theorem queueName_of_claim {delivery : DeliveryRecord}
    (h : transact (claimDue now locked queueName leaseSeconds) db = (.ok (some delivery), db')) :
    delivery.queueName = queueName := by
  obtain ⟨row, hrow, rfl⟩ := Option.map_eq_some_iff.mp
    (claimDue_ok_inv (eq_ok_of_transact h)).symm
  exact (Db.candidate_eq_some hrow).2.1

end Claims

/-! ### What a step changes -/

section Changes

variable {s : Sys P} {begins : Timestamptz} {db' : Db} {stored : Option Stored} {id : String}

/-- What the transaction of a step says of a delivery it changes. -/
inductive Stored.Changes (db : Db) (id : String) : Stored → Prop
  | enqueue {delivery : NewDelivery} {result : Except (Abort StoreError) InsertOutcome}
      (hid : delivery.deliveryId = id) (hnew : db.delivery id = none) :
      Changes db id (.enqueue delivery result)
  | claim {queueName : String} {result : Except (Abort StoreError) (Option DeliveryRecord)}
      {row : DeliveryRow} (hrow : db.delivery id = some row) (hqueue : row.queueName = queueName) :
      Changes db id (.claim queueName result)
  | outcome {call : OutcomeCall} {result : Except (Abort StoreError) Unit}
      (hid : call.deliveryId = id) : Changes db id (.outcome call result)
  | replay {result : Except (Abort StoreError) (Option DeliveryRecord)} {row : DeliveryRow}
      (hrow : db.delivery id = some row) (hstatus : row.status = .deadLetter) :
      Changes db id (.replay id result)

/-- A claim leaves the deliveries of other queues alone. -/
theorem life_of_claim (hinv : s.Inv) (plugin : OutboundWebhookPlugin P) (locked : List String)
    (hchange : (transact (claimDue begins locked plugin.config.queueName plugin.config.leaseSeconds)
      s.db).2.life id ≠ s.db.life id) :
    ∃ row, s.db.delivery id = some row ∧ row.queueName = plugin.config.queueName := by
  obtain ⟨db', hclaim, hd, ha⟩ := hinv.claim plugin begins locked
  rw [hclaim] at hchange
  cases hl : s.db.life id with
  | none =>
    have hnone := Db.delivery_of_map hd Db.afterClaim_deliveryId id
    rw [Db.life_eq_none_iff.mp hl, Option.map_none] at hnone
    rw [hl] at hchange
    exact absurd (Db.life_eq_none_iff.mpr hnone) hchange
  | some l =>
    obtain ⟨hrow, -⟩ := Db.life_eq_some_iff.mp hl
    refine ⟨l.row, hrow, ?_⟩
    by_cases hexpired : l.row ∈ s.db.expired begins locked plugin.config.queueName
    · exact (DeliveryRow.isExpired_iff.mp (Db.mem_expired hexpired).2.1).1
    · rcases Db.afterClaim_cases begins locked plugin.config.queueName plugin.config.leaseSeconds
        (Db.mem_of_life hl) with ⟨hcandidate, -⟩ | ⟨-, hexpired', -⟩ | ⟨-, -, hsame⟩
      · exact (Db.candidate_eq_some hcandidate).2.1
      · exact absurd hexpired' hexpired
      · have hlife := Db.life_afterClaim hl hd ha
        rw [hsame, if_neg hexpired, ← hl] at hlife
        exact absurd hlife hchange

theorem Observed.outcome_inv {call : OutcomeCall} {result : Except (Abort StoreError) Unit}
    {l l' : Life} (h : Observed begins id (some (.outcome call result)) l l') :
    l' = l ∨ call.deliveryId = id := by
  cases h with
  | still => exact .inl rfl
  | recorded hid => exact .inr hid

theorem Observed.replay_inv {deliveryId : String}
    {result : Except (Abort StoreError) (Option DeliveryRecord)} {l l' : Life}
    (h : Observed begins id (some (.replay deliveryId result)) l l') :
    l' = l ∨ deliveryId = id ∧ l.row.isReplayable id := by
  cases h with
  | still => exact .inl rfl
  | replayed hreplayable => exact .inr ⟨rfl, hreplayable⟩

/-- Only an enqueue brings a delivery to life. -/
theorem Writes.life_of_none (hinv : s.Inv) (h : Writes s begins stored db')
    (hstored : ∀ delivery result, stored ≠ some (.enqueue delivery result))
    (hl : s.db.life id = none) : db'.life id = none := by
  rcases h.rows hinv with ⟨f, hf, hd⟩ | ⟨delivery, record, hstored', -⟩
  · have hnone := Db.delivery_of_map hd hf id
    rw [Db.life_eq_none_iff.mp hl, Option.map_none] at hnone
    exact Db.life_eq_none_iff.mpr hnone
  · exact absurd hstored' (hstored _ _)

/-- **A changed delivery is one its transaction is about.** -/
theorem Writes.changes (hinv : s.Inv) (h : Writes s begins stored db')
    (hchange : db'.life id ≠ s.db.life id) : ∃ w, stored = some w ∧ w.Changes s.db id := by
  have hrefines := h.refines hinv
  have hlife := @Writes.life_of_none _ _ _ _ _ id hinv h
  cases h with
  | nothing => exact absurd rfl hchange
  | @enqueue plugin caller now request delivery hnew =>
    refine ⟨_, rfl, ?_⟩
    rcases transact_insertOrGet (enqueued_of_newDelivery hnew) begins with
      ⟨row, -, -, hresult⟩ | ⟨db', hresult, hid, hd, ha⟩ | hresult
    · rw [hresult] at hchange
      exact absurd rfl hchange
    · rw [hresult] at hchange
      by_cases hsame : delivery.deliveryId = id
      · exact .enqueue hsame (hsame ▸ Db.delivery_eq_none_iff.mpr hid)
      · have hlife := Db.life_of_insert hd ha hid id
        exact absurd (hlife.trans (if_neg hsame)) hchange
    · rw [hresult] at hchange
      exact absurd rfl hchange
  | claim plugin locked =>
    obtain ⟨row, hrow, hqueue⟩ := life_of_claim hinv plugin locked hchange
    exact ⟨_, rfl, .claim hrow hqueue⟩
  | outcome hpending hsince houtcome =>
    cases hl : s.db.life id with
    | none =>
      exact absurd ((hlife (by simp) hl).trans hl.symm) hchange
    | some l =>
      obtain ⟨l', hl', hobserved⟩ := hrefines.moves id l hl
      rcases hobserved.outcome_inv with rfl | hid
      · exact absurd (hl'.trans hl.symm) hchange
      · exact ⟨_, rfl, .outcome hid⟩
  | replay deliveryId =>
    cases hl : s.db.life id with
    | none =>
      exact absurd ((hlife (by simp) hl).trans hl.symm) hchange
    | some l =>
      obtain ⟨l', hl', hobserved⟩ := hrefines.moves id l hl
      rcases hobserved.replay_inv with rfl | ⟨rfl, hreplayable⟩
      · exact absurd (hl'.trans hl.symm) hchange
      · exact ⟨_, rfl, .replay (Db.life_eq_some_iff.mp hl).1
          (DeliveryRow.isReplayable_iff.mp hreplayable).2.1⟩

end Changes

/-! ### Whose stretch a step is -/

/-- A stretch that leaves a task was admitted, and the task is one the call leaves. -/
theorem Call.FirstStretch.leaves {call : Call P} {begins : Timestamptz} {locked : List String}
    {db : Db} {effect : Effect P} (h : call.FirstStretch begins locked db effect) {task : Task P}
    (htask : effect.task = some task) : call.Leaves task := by
  cases h with
  | claimed prepared hclaim =>
    obtain ⟨delivery, rfl, rfl⟩ := claimAnswer_task htask
    exact .claimed (queueName_of_claim hclaim)
  | inspecting hload =>
    cases htask
    rw [← loadDelivery_deliveryId hload]
    exact .inspecting
  | replaying hload =>
    cases htask
    rw [← loadDelivery_deliveryId hload]
    exact .replaying
  | _ => cases htask

/-- What a later stretch leaves is left by the same call. -/
theorem Task.NextStretch.leaves {call : Call P} {task task' : Task P} {input : Input}
    {begins : Timestamptz} {db : Db} {effect : Effect P}
    (h : task.NextStretch begins db input effect) (htask : effect.task = some task')
    (hleaves : call.Leaves task) : call.Leaves task' := by
  cases h with
  | posted =>
    cases htask
    cases hleaves with
    | claimed hqueue => exact .posted hqueue
  | replayable =>
    cases htask
    cases hleaves with
    | replaying => exact .replayable
  | _ => cases htask

theorem Sys.mem_of_rest {s : Sys P} {before after : List (Pending P)} {p q : Pending P}
    (h : s.pending = before ++ q :: after) (hp : p ∈ before ++ after) : p ∈ s.pending := by
  rw [h]
  exact List.append_sublist_append_left _ |>.mpr (List.sublist_cons_self q after) |>.subset hp

/-- **Every task in progress was left by a call that had authority.** -/
theorem exists_call_of_pending {labels : List (Label P)} {s : Sys P}
    (hrun : (system P).Run labels s) : ∀ p ∈ s.pending, ∃ call : Call P, call.Authorised ∧
      call.Leaves p.task ∧
      (system P).Once labels s fun _ first => first.action = .start call := by
  refine hrun.induction (P := fun labels s => ∀ p ∈ s.pending, ∃ call : Call P, call.Authorised ∧
    call.Leaves p.task ∧ (system P).Once labels s fun _ first => first.action = .start call) ?_ ?_
  · rintro s ⟨-, hpending⟩ p hp
    rw [hpending] at hp
    cases hp
  · intro labels s label t hs ih hstep p hp
    have hbefore : p ∈ s.pending → ∃ call : Call P, call.Authorised ∧ call.Leaves p.task ∧
        (system P).Once (labels ++ [label]) t fun _ first => first.action = .start call := by
      intro hp
      obtain ⟨call, hauthorised, hleaves, honce⟩ := ih p hp
      exact ⟨call, hauthorised, hleaves, honce.snoc hstep⟩
    have hstep' := hstep
    cases hstep' with
    | @start begins takesEffect locked call hbegins hnow =>
      rcases Effect.mem_after hp with hp | ⟨htask, -⟩
      · exact hbefore hp
      · refine ⟨call, ?_, (call.firstStretch begins locked s.db).leaves htask,
          hs.once_last hstep rfl⟩
        by_contra hauthorised
        rw [Call.start_of_not_authorised hauthorised] at htask
        cases htask
    | @resume begins takesEffect before after q input effect hbegins hnow hsince hpending heffect =>
      rcases Effect.mem_after hp with hp | ⟨htask, -⟩
      · exact hbefore (Sys.mem_of_rest hpending hp)
      · obtain ⟨call, hauthorised, hleaves, honce⟩ := ih q (Sys.mem_of_split hpending)
        exact ⟨call, hauthorised, (Task.nextStretch begins s.db heffect).leaves htask hleaves,
          honce.snoc hstep⟩
    | stop hnow hpending => exact hbefore (Sys.mem_of_rest hpending hp)

/-! ### Authority -/

/-- What a call changes with its first stretch. -/
theorem Call.FirstStretch.mayChange {call : Call P} {begins : Timestamptz} {locked : List String}
    {db : Db} {effect : Effect P} (h : call.FirstStretch begins locked db effect) {id : String}
    {stored : Stored} (hstored : effect.observation.stored = some stored)
    (hchanges : stored.Changes db id) : call.MayChange db id := by
  cases h with
  | enqueued hnew =>
    cases hstored
    cases hchanges with
    | enqueue hid hnone =>
      rw [(enqueued_of_newDelivery hnew).deliveryId] at hid
      subst hid
      exact .enqueue hnone
  | claimed =>
    cases hstored
    cases hchanges with
    | claim hrow hqueue => exact .dispatch hrow hqueue
  | _ => cases hstored

/-- What a call changes with a later stretch. -/
theorem Task.NextStretch.mayChange {s : Sys P} (hinv : s.Inv) {call : Call P} {p : Pending P}
    (hp : p ∈ s.pending) (hleaves : call.Leaves p.task) {input : Input} {begins : Timestamptz}
    {effect : Effect P} (h : p.task.NextStretch begins s.db input effect) {id : String}
    {stored : Stored} (hstored : effect.observation.stored = some stored)
    (hchanges : stored.Changes s.db id) : call.MayChange s.db id := by
  have hknown := hinv.known p hp
  obtain ⟨task, since⟩ := p
  -- an outcome is about the delivery its worker has claimed, which keeps its queue
  have hclaimed : ∀ {plugin : OutboundWebhookPlugin P} {caller : Option String}
      {delivery : DeliveryRecord}, task.dispatched = some delivery →
      delivery.queueName = plugin.config.queueName → delivery.deliveryId = id →
      (Call.dispatch plugin caller).MayChange s.db id := by
    intro plugin caller delivery hdispatched hqueue hid
    obtain ⟨row, hrow, hcontent, -⟩ := (hknown delivery hdispatched).row
    have hsame : row.queueName = delivery.queueName := congrArg Content.queueName hcontent
    exact .dispatch (hid ▸ hrow) (hsame.trans hqueue)
  cases h with
  | endpointChanged =>
    cases hstored
    cases hchanges with
    | outcome hid =>
      cases hleaves with
      | claimed hqueue => exact hclaimed rfl hqueue hid
  | finished hfinish =>
    cases hstored
    cases hchanges with
    | outcome hid =>
      rw [(finishOutcome_for hfinish).deliveryId] at hid
      cases hleaves with
      | posted hqueue => exact hclaimed rfl hqueue hid
  | replayed =>
    cases hstored
    cases hchanges with
    | replay hrow hstatus =>
      cases hleaves with
      | replayable => exact .replay hrow hstatus
  | _ => cases hstored

theorem Call.FirstStretch.posted_eq_none {call : Call P} {begins : Timestamptz}
    {locked : List String} {db : Db} {effect : Effect P}
    (h : call.FirstStretch begins locked db effect) : effect.observation.posted = none := by
  cases h with
  | _ => rfl

theorem signedRequest_url {config : OutboundWebhookConfig} {prepared : PreparedWebhook P config}
    {delivery : DeliveryRecord} {now : OffsetDateTime} {request : SendRequest}
    (h : signedRequest prepared delivery now = .ok request) :
    request.url = prepared.endpoint.asStr := by
  rw [signedRequest] at h
  cases htime : formatTime P now with
  | error error =>
    rw [htime] at h
    cases h
  | ok timestamp =>
    rw [htime] at h
    cases hsignature : signPayload P prepared.signingKey delivery.deliveryId timestamp
        delivery.payloadSnapshot with
    | error error => simp [bind, Except.bind, hsignature] at h
    | ok signature =>
      simp only [bind, Except.bind, hsignature, pure, Except.pure, Except.ok.injEq] at h
      exact h ▸ rfl

/-- A request is sent by the stretch that follows the claim. -/
theorem Task.NextStretch.maySend {call : Call P} {task : Task P} (hleaves : call.Leaves task)
    {input : Input} {begins : Timestamptz} {db : Db} {effect : Effect P}
    (h : task.NextStretch begins db input effect) {post : Post}
    (hposted : effect.observation.posted = some post) : call.MaySend post := by
  cases h with
  | @posted plugin prepared delivery now request hsame hrequest =>
    cases hposted
    cases hleaves with
    | claimed hqueue =>
      refine .dispatch hqueue ?_ prepared.endpoint_eq ?_
      · rw [endpointDiffers, Bool.or_eq_false_iff] at hsame
        exact bne_eq_false_iff_eq.mp hsame.1
      · exact signedRequest_url hrequest
  | _ => cases hposted

/-- **Every step of a run has its authority.** It is a stretch of a call that had none, and is
refused without a look at the tables, or of one that had, and stays within what the call may
change and send. -/
theorem authority (P : Platform) {labels : List (Label P)} {s t : Sys P} {label : Label P}
    (hrun : (system P).Run labels s) (hstep : (system P).step s label t) :
    (∃ task, label.action = .stop task ∧ label.observation = .nothing ∧ t.db = s.db) ∨
    ∃ call, StretchOf labels s label call ∧
      ((¬call.Authorised ∧ label.action = .start call ∧
        label.observation = ⟨none, none, some call.refusal⟩ ∧ t.db = s.db ∧
        t.pending = s.pending) ∨
      (call.Authorised ∧ (∀ id, t.db.life id ≠ s.db.life id → call.MayChange s.db id) ∧
        ∀ post, label.observation.posted = some post → call.MaySend post)) := by
  have hinv := reachable_inv hrun.reachable
  have hchanges : ∀ id, t.db.life id ≠ s.db.life id →
      ∃ stored, label.observation.stored = some stored ∧ stored.Changes s.db id :=
    fun id => (Step.writes hstep).changes hinv
  cases hstep with
  | @start begins takesEffect locked call hbegins hnow =>
    refine .inr ⟨call, .first rfl, ?_⟩
    by_cases hauthorised : call.Authorised
    · refine .inr ⟨hauthorised, ?_, ?_⟩
      · intro id hchange
        obtain ⟨stored, hstored, hchanges⟩ := hchanges id hchange
        exact (call.firstStretch begins locked s.db).mayChange hstored hchanges
      · intro post hposted
        have hnone := (call.firstStretch begins locked s.db).posted_eq_none
        cases hnone.symm.trans hposted
    · rw [Call.start_of_not_authorised hauthorised]
      exact .inl ⟨hauthorised, rfl, rfl, rfl, List.append_nil _⟩
  | @resume begins takesEffect before after p input effect hbegins hnow hsince hpending heffect =>
    have hp := Sys.mem_of_split hpending
    have hnext := Task.nextStretch begins s.db heffect
    obtain ⟨call, hauthorised, hleaves, honce⟩ := exists_call_of_pending hrun p hp
    refine .inr ⟨call, .next rfl hleaves honce, .inr ⟨hauthorised, ?_, ?_⟩⟩
    · intro id hchange
      obtain ⟨stored, hstored, hchanges⟩ := hchanges id hchange
      exact hnext.mayChange hinv hp hleaves hstored hchanges
    · intro post hposted
      exact hnext.maySend hleaves hposted
  | stop hnow hpending => exact .inl ⟨_, rfl, rfl, rfl⟩

/-- The step that delivers the first order is a stretch of a dispatch that had authority. -/
theorem authority_first :
    ∃ labels s label t call, (system reference).Run labels s ∧ (system reference).step s label t ∧
      t.db.life firstOrder.delivery.deliveryId ≠ s.db.life firstOrder.delivery.deliveryId ∧
      StretchOf labels s label call ∧ call.Authorised ∧
      call.MayChange s.db firstOrder.delivery.deliveryId := by
  obtain ⟨labels, s, label, t, hrun, -, hstep, hd, -, -, hdelivered, -⟩ := exists_first_delivered
  have hrow : s.db.delivery firstOrder.delivery.deliveryId = some (firstOrder.row 0) :=
    Db.delivery_of_mem (Db.mem_of_singleton hd)
  have hchange :
      t.db.life firstOrder.delivery.deliveryId ≠ s.db.life firstOrder.delivery.deliveryId := by
    rw [Db.life_of_delivery hdelivered, Db.life_of_delivery hrow]
    intro h
    have hstatus := congrArg (fun l => l.map fun l => l.row.status) h
    cases hstatus
  rcases authority reference hrun hstep with ⟨task, -, -, hsame⟩ |
    ⟨call, hstretch, ⟨-, -, -, hsame, -⟩ | ⟨hauthorised, hmay, -⟩⟩
  · exact absurd (by rw [hsame]) hchange
  · exact absurd (by rw [hsame]) hchange
  · exact ⟨labels, s, label, t, call, hrun, hstep, hchange, hstretch, hauthorised,
      hmay _ hchange⟩

end OutboundWebhook
