import OutboundWebhook.Foundations.Simulation
import OutboundWebhook.Reference

/-!
# The signing key

The key an instance signs with is resolved once, in `activate`, and kept next to the endpoint in
every task of a dispatch. Nothing but the signature header of a request may depend on it.

That is a statement about two runs. Exchange the keys of all instances for others (`Rekeying`), and
repeat a run step by step: the tables are the same, every transaction stores and returns the same,
every call ends with the same answer, and the requests are the same up to that one header. Whoever
sees all of this and not the signatures cannot tell two keys from each other.

## What the exchange has to respect

`activate` refuses keys below 32 octets, and a key the HMAC refuses ends the dispatch with a failure
of its own. The exchange keeps both, since otherwise the two runs would differ in a failure, which
is the one thing a key shows without a signature.

## Main results

* `activate_rekey` — the exchange is what another secret does
* `signing_key_confined`
-/

namespace OutboundWebhook

variable {P : Platform}

/-! ### Exchanging the keys -/

variable (P) in
/-- New keys for old, for each instance. -/
structure Rekeying where
  key : OutboundWebhookConfig → Bytes → Bytes
  /-- Long keys stay long. -/
  length : ∀ config k, 32 ≤ k.length → 32 ≤ (key config k).length
  /-- The HMAC takes the new key if it takes the old one. -/
  accepted : ∀ config k, (P.hmacSha256 (key config k)).isSome = (P.hmacSha256 k).isSome

def PreparedWebhook.rekey {config : OutboundWebhookConfig} (ρ : Rekeying P)
    (prepared : PreparedWebhook P config) : PreparedWebhook P config :=
  { prepared with
    signingKey := ρ.key config prepared.signingKey
    signingKey_length := ρ.length config prepared.signingKey prepared.signingKey_length }

abbrev OutboundWebhookPlugin.rekey (ρ : Rekeying P) (plugin : OutboundWebhookPlugin P) :
    OutboundWebhookPlugin P :=
  { plugin with active := plugin.active.map (PreparedWebhook.rekey ρ) }

def Call.rekey (ρ : Rekeying P) : Call P → Call P
  | .enqueue plugin caller now request => .enqueue (plugin.rekey ρ) caller now request
  | .dispatch plugin caller => .dispatch (plugin.rekey ρ) caller
  | .inspect plugin caller deliveryId => .inspect (plugin.rekey ρ) caller deliveryId
  | .replay plugin caller deliveryId => .replay (plugin.rekey ρ) caller deliveryId

def Task.rekey (ρ : Rekeying P) : Task P → Task P
  | .claimed plugin prepared delivery => .claimed (plugin.rekey ρ) (prepared.rekey ρ) delivery
  | .posted plugin delivery => .posted (plugin.rekey ρ) delivery
  | .inspecting delivery => .inspecting delivery
  | .replaying delivery => .replaying delivery
  | .replayable deliveryId => .replayable deliveryId

def Effect.rekey (ρ : Rekeying P) (effect : Effect P) : Effect P :=
  { effect with task := effect.task.map (Task.rekey ρ) }

def Pending.rekey (ρ : Rekeying P) (p : Pending P) : Pending P := ⟨p.task.rekey ρ, p.since⟩

def Action.rekey (ρ : Rekeying P) : Action P → Action P
  | .start call => .start (call.rekey ρ)
  | .resume task input => .resume (task.rekey ρ) input
  | .stop task => .stop (task.rekey ρ)

def Label.rekey (ρ : Rekeying P) (label : Label P) : Label P :=
  { label with action := label.action.rekey ρ }

def Sys.rekey (ρ : Rekeying P) (s : Sys P) : Sys P :=
  { s with pending := s.pending.map (Pending.rekey ρ) }

/-- **The exchange is what another secret does.** -/
theorem activate_rekey (ρ : Rekeying P) {config : OutboundWebhookConfig}
    (valid : ValidConfig P config) {signingKey signingKey' : String} (storage : Except String Unit)
    (hlength : 32 ≤ (asBytes signingKey).length)
    (hkey : ρ.key config (asBytes signingKey) = asBytes signingKey') :
    activate P config valid signingKey' storage =
      (activate P config valid signingKey storage).map (PreparedWebhook.rekey ρ) := by
  have hlength' : 32 ≤ (asBytes signingKey').length := hkey ▸ ρ.length config _ hlength
  rw [activate, activate, dif_neg (not_lt.mpr hlength), dif_neg (not_lt.mpr hlength')]
  cases P.schemaPlan config.schema with
  | error error => rfl
  | ok planned =>
    cases storage with
    | error error => rfl
    | ok prepared =>
      dsimp only
      split
      · simp [Except.map, PreparedWebhook.rekey, hkey]
      · rename_i error hendpoint
        obtain ⟨endpoint, hok⟩ := valid.endpoint
        cases hok.symm.trans hendpoint

/-! ### Everything but the signature -/

/-- The request without its signature. -/
def SendRequest.unsigned (request : SendRequest) : SendRequest :=
  { request with
    headers := request.headers.filter fun header => header.name != "x-lenso-webhook-signature" }

def Post.unsigned (post : Post) : Post := { post with request := post.request.unsigned }

def Observation.unsigned (o : Observation) : Observation :=
  { o with posted := o.posted.map Post.unsigned }

def Effect.unsigned (effect : Effect P) : Effect P :=
  { effect with observation := effect.observation.unsigned }

def Label.unsigned (label : Label P) : Label P :=
  { label with observation := label.observation.unsigned }

/-- Two results that a map does not tell apart. -/
theorem cases_of_map_eq_map {ε α β : Type} {f : α → β} {x y : Except ε α}
    (h : x.map f = y.map f) :
    (∃ error, x = .error error ∧ y = .error error) ∨
      ∃ a b, x = .ok a ∧ y = .ok b ∧ f a = f b := by
  rcases x with error | a
  · rcases y with error' | b
    · cases h
      exact .inl ⟨error, rfl, rfl⟩
    · cases h
  · rcases y with error' | b
    · cases h
    · exact .inr ⟨a, b, rfl, rfl, Except.ok.inj h⟩

/-! ### One stretch under two keys -/

section Stretches

variable (ρ : Rekeying P)

theorem OutboundWebhookPlugin.adminAllowed_rekey (plugin : OutboundWebhookPlugin P)
    (caller : Option String) :
    (plugin.rekey ρ).config.adminAllowed caller = plugin.config.adminAllowed caller :=
  rfl

theorem OutboundWebhookPlugin.prepared_rekey (plugin : OutboundWebhookPlugin P) :
    (plugin.rekey ρ).prepared = plugin.prepared.map (PreparedWebhook.rekey ρ) := by
  obtain ⟨config, validated, active⟩ := plugin
  cases active <;> rfl

theorem newDelivery_rekey (plugin : OutboundWebhookPlugin P) (caller : Option String)
    (now : OffsetDateTime) (request : EnqueueRequest) :
    newDelivery (plugin.rekey ρ) caller now request = newDelivery plugin caller now request := by
  rw [newDelivery, newDelivery, plugin.prepared_rekey ρ]
  cases plugin.prepared <;> rfl

theorem claimAnswer_rekey (plugin : OutboundWebhookPlugin P)
    (prepared : PreparedWebhook P plugin.config)
    (result : Except (Abort StoreError) (Option DeliveryRecord)) :
    claimAnswer (plugin.rekey ρ) (prepared.rekey ρ) result =
      ((claimAnswer plugin prepared result).1,
        (claimAnswer plugin prepared result).2.map (Task.rekey ρ)) := by
  rcases result with error | claimed
  · rfl
  · cases claimed <;> rfl

theorem adminRequest_rekey {ε : Type} (plugin : OutboundWebhookPlugin P) (caller : Option String)
    (deliveryId : String) (forbidden invalidDelivery : ε) (runtime : RuntimeFailure → ε) :
    adminRequest (plugin.rekey ρ) caller deliveryId forbidden invalidDelivery runtime =
      adminRequest plugin caller deliveryId forbidden invalidDelivery runtime := by
  rw [adminRequest, adminRequest, plugin.prepared_rekey ρ]
  cases plugin.prepared <;> rfl

/-- The first stretch of a call reads no key. -/
theorem Call.start_rekey (call : Call P) (begins : Timestamptz) (locked : List String) (db : Db) :
    (call.rekey ρ).start begins locked db = (call.start begins locked db).rekey ρ := by
  cases call with
  | enqueue plugin caller now request =>
    rw [Call.rekey, Call.start, Call.start, enqueueDelivery, enqueueDelivery, newDelivery_rekey]
    cases newDelivery plugin caller now request <;> rfl
  | dispatch plugin caller =>
    show dispatchDelivery (plugin.rekey ρ) caller begins locked db =
      (dispatchDelivery plugin caller begins locked db).rekey ρ
    rw [dispatchDelivery, dispatchDelivery, plugin.prepared_rekey ρ, plugin.adminAllowed_rekey ρ]
    by_cases hallowed : plugin.config.adminAllowed caller = true
    · rw [if_neg (by simpa using hallowed), if_neg (by simpa using hallowed)]
      cases plugin.prepared with
      | error error => rfl
      | ok prepared =>
        have hclaim := claimAnswer_rekey ρ plugin prepared (transact
          (claimDue begins locked plugin.config.queueName plugin.config.leaseSeconds) db).1
        exact congrArg (fun next : Option Answer × Option (Task P) =>
          Effect.mk ⟨some (.claim plugin.config.queueName _), none, next.1⟩ next.2 _) hclaim
    · rw [if_pos (by simpa using hallowed), if_pos (by simpa using hallowed)]
      rfl
  | inspect plugin caller deliveryId =>
    rw [Call.rekey, Call.start, Call.start, inspectDelivery, inspectDelivery, adminRequest_rekey]
    split
    · rfl
    · split <;> rfl
  | replay plugin caller deliveryId =>
    rw [Call.rekey, Call.start, Call.start, replayDelivery, replayDelivery, adminRequest_rekey]
    split
    · rfl
    · split <;> rfl

theorem signedRequest_rekey {config : OutboundWebhookConfig} (prepared : PreparedWebhook P config)
    (delivery : DeliveryRecord) (now : OffsetDateTime) :
    (signedRequest (prepared.rekey ρ) delivery now).map SendRequest.unsigned =
      (signedRequest prepared delivery now).map SendRequest.unsigned := by
  rw [signedRequest, signedRequest]
  cases formatTime P now with
  | error error => rfl
  | ok timestamp =>
    have haccepted := ρ.accepted config prepared.signingKey
    show (signPayload P (ρ.key config prepared.signingKey) _ _ _ >>= _).map _ =
      (signPayload P prepared.signingKey _ _ _ >>= _).map _
    rw [signPayload, signPayload]
    cases hold : P.hmacSha256 prepared.signingKey with
    | none =>
      rw [hold, Option.isSome_none, Option.isSome_eq_false_iff, Option.isNone_iff_eq_none]
        at haccepted
      rw [haccepted]
      rfl
    | some mac =>
      rw [hold, Option.isSome_some, Option.isSome_iff_exists] at haccepted
      obtain ⟨mac', hnew⟩ := haccepted
      rw [hnew]
      rfl

/-- A later stretch signs with the key, or does not read it. -/
theorem Task.resume_rekey (task : Task P) (input : Input) (begins : Timestamptz) (db : Db) :
    ((task.rekey ρ).resume input begins db).map Effect.unsigned =
      (task.resume input begins db).map fun effect => (effect.rekey ρ).unsigned := by
  cases task with
  | claimed plugin prepared delivery =>
    cases input with
    | clock now =>
      refine congrArg some ?_
      show (attemptDelivery (plugin.rekey ρ) (prepared.rekey ρ) delivery now begins db).unsigned =
        ((attemptDelivery plugin prepared delivery now begins db).rekey ρ).unsigned
      have hdiffers : endpointDiffers (prepared.rekey ρ) delivery =
        endpointDiffers prepared delivery := rfl
      rw [attemptDelivery, attemptDelivery]
      by_cases h : endpointDiffers prepared delivery = true
      · rw [if_pos h, if_pos (hdiffers.trans h)]
        rfl
      · rw [if_neg h, if_neg (hdiffers ▸ h)]
        rcases cases_of_map_eq_map (signedRequest_rekey ρ prepared delivery now) with
          ⟨error, hnew, hold⟩ | ⟨request', request, hnew, hold, hsame⟩
        · rw [hnew, hold]
          rfl
        · rw [hnew, hold]
          simp [Effect.unsigned, Effect.rekey, Observation.unsigned, Post.unsigned, hsame,
            Task.rekey]
    | _ => rfl
  | posted plugin delivery =>
    cases input with
    | response result receivedAt decidedAt =>
      refine congrArg some ?_
      show (finishDispatch (plugin.rekey ρ) delivery result receivedAt decidedAt begins db).unsigned
        = ((finishDispatch plugin delivery result receivedAt decidedAt begins db).rekey ρ).unsigned
      have hconfig : (plugin.rekey ρ).config = plugin.config := rfl
      rw [finishDispatch, finishDispatch, hconfig]
      cases finishOutcome P plugin.config delivery result receivedAt decidedAt <;> rfl
    | _ => rfl
  | replaying delivery =>
    cases input with
    | turn =>
      refine congrArg some ?_
      show (replayReceipt delivery db).unsigned = ((replayReceipt delivery db).rekey ρ).unsigned
      rw [replayReceipt]
      split <;> rfl
    | _ => rfl
  | _ => cases input <;> rfl

end Stretches

/-! ### Whole runs -/

theorem Effect.after_rekey (ρ : Rekeying P) (effect : Effect P) (takesEffect : Timestamptz)
    (rest : List (Pending P)) :
    (effect.after takesEffect rest).rekey ρ =
      (effect.rekey ρ).after takesEffect (rest.map (Pending.rekey ρ)) := by
  obtain ⟨observation, task, db⟩ := effect
  cases task <;> simp [Effect.after, Effect.rekey, Sys.rekey, Pending.rekey]

theorem Effect.after_eq_of_unsigned {effect effect' : Effect P}
    (h : effect.unsigned = effect'.unsigned) (takesEffect : Timestamptz)
    (rest : List (Pending P)) : effect.after takesEffect rest = effect'.after takesEffect rest := by
  rw [Effect.unsigned, Effect.unsigned, Effect.mk.injEq] at h
  rw [Effect.after, Effect.after, h.2.1, h.2.2]

/-- A step under the new keys, for each step under the old. -/
theorem Step.rekey (ρ : Rekeying P) {s t : Sys P} {label : Label P} (h : Step s label t) :
    ∃ label', Step (s.rekey ρ) label' (t.rekey ρ) ∧
      label'.unsigned = (label.rekey ρ).unsigned := by
  cases h with
  | @start begins takesEffect locked call hbegins hnow =>
    refine ⟨⟨begins, takesEffect, .start (call.rekey ρ),
      ((call.rekey ρ).start begins locked s.db).observation⟩, ?_, ?_⟩
    · rw [Effect.after_rekey, ← Call.start_rekey]
      exact .start hbegins hnow
    · rw [Call.start_rekey]
      rfl
  | @resume begins takesEffect before after p input effect hbegins hnow hsince hpending heffect =>
    have hresume := p.task.resume_rekey ρ input begins s.db
    rw [heffect, Option.map_some, Option.map_eq_some_iff] at hresume
    obtain ⟨effect', heffect', hunsigned⟩ := hresume
    have hpending' : (s.rekey ρ).pending =
        before.map (Pending.rekey ρ) ++ p.rekey ρ :: after.map (Pending.rekey ρ) := by
      rw [Sys.rekey, hpending, List.map_append, List.map_cons]
    refine ⟨⟨begins, takesEffect, .resume (p.task.rekey ρ) input, effect'.observation⟩, ?_, ?_⟩
    · rw [Effect.after_rekey, ← Effect.after_eq_of_unsigned hunsigned, List.map_append]
      exact Step.resume (p := p.rekey ρ) hbegins hnow hsince hpending' heffect'
    · exact congrArg (Label.mk begins takesEffect (.resume (p.task.rekey ρ) input))
        (congrArg Effect.observation hunsigned)
  | @stop takesEffect before after p hnow hpending =>
    have hpending' : (s.rekey ρ).pending =
        before.map (Pending.rekey ρ) ++ p.rekey ρ :: after.map (Pending.rekey ρ) := by
      rw [Sys.rekey, hpending, List.map_append, List.map_cons]
    refine ⟨⟨takesEffect, takesEffect, .stop (p.task.rekey ρ), .nothing⟩, ?_, rfl⟩
    show Step _ _ ⟨s.db, takesEffect, (before ++ after).map (Pending.rekey ρ)⟩
    rw [List.map_append]
    exact Step.stop (p := p.rekey ρ) hnow hpending'

theorem simulation_rekey (ρ : Rekeying P) :
    (system P).Simulation (system P) (fun s t => t = s.rekey ρ)
      (fun label => some (label.rekey ρ).unsigned) (fun label => some label.unsigned) where
  init := by
    rintro s ⟨hdb, hpending⟩
    refine ⟨s.rekey ρ, ⟨hdb, ?_⟩, rfl⟩
    rw [Sys.rekey, hpending, List.map_nil]
  step := by
    rintro s label s' t hstep rfl
    obtain ⟨label', hstep', hshown⟩ := Step.rekey ρ hstep
    refine ⟨[label'], s'.rekey ρ, ⟨s'.rekey ρ, hstep', rfl⟩, rfl, ?_⟩
    rw [← hshown]
    rfl

/-- **Nothing but the signatures depends on a signing key.** Every run can be repeated under other
keys: with the same tables and, step by step, the same transactions and their results, the same
answers, and the same requests up to their signature header. -/
theorem signing_key_confined (P : Platform) (ρ : Rekeying P) {labels : List (Label P)} {s : Sys P}
    (hrun : (system P).Run labels s) :
    ∃ labels', (system P).Run labels' (s.rekey ρ) ∧ (s.rekey ρ).db = s.db ∧
      labels'.map Label.unsigned = labels.map fun label => (label.rekey ρ).unsigned := by
  obtain ⟨labels', t, hrun', rfl, hshown⟩ := (simulation_rekey ρ).run hrun
  refine ⟨labels', hrun', rfl, ?_⟩
  rwa [List.filterMap_eq_map', List.filterMap_eq_map'] at hshown

/-- A longer key for every instance of the deployment. -/
def longerKeys : Rekeying reference where
  key _ k := 0 :: k
  length _ _ hk := hk.trans (Nat.le_succ _)
  accepted _ _ := rfl

/-- The first order is delivered under the other keys too. -/
theorem signing_key_confined_first :
    ∃ labels s labels', (system reference).Run labels s ∧
      (∃ row, s.db.delivery firstOrder.delivery.deliveryId = some row ∧ row.status = .delivered) ∧
      (system reference).Run labels' (s.rekey longerKeys) ∧
      labels'.map Label.unsigned =
        labels.map fun label => (label.rekey longerKeys).unsigned := by
  obtain ⟨labels, s, label, t, hrun, -, hstep, -, -, -, hdelivered, -⟩ := exists_first_delivered
  obtain ⟨labels', hrun', -, hshown⟩ :=
    signing_key_confined reference longerKeys (hrun.snoc hstep)
  exact ⟨labels ++ [label], t, labels', hrun.snoc hstep, ⟨_, hdelivered, rfl⟩, hrun', hshown⟩

end OutboundWebhook
