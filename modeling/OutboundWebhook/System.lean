import OutboundWebhook.Service
import OutboundWebhook.Foundations.TransitionSystem

/-!
# Any number of workers on one schema

A system state holds the tables, the database clock and the calls in progress. One step runs one
stretch of one call. The steps of different calls interleave freely, every call may come from a
different plugin instance under a different configuration, and a worker may stop at any point.

## Two times of a transaction

A step takes effect at `takesEffect`, and these times never go back. Its transaction began at
`begins`, which is what `transaction_timestamp()` shows and which is not later than
`takesEffect`. Two transactions may therefore take effect in the opposite order of their
timestamps. A stretch of a call does begin after the previous stretch of the same call took
effect.

## Main results

* `Call.firstStretch`, `Task.nextStretch` — everything a stretch can be
* `Step.writes` — a step changes the tables by one of the four transactions or not at all
* `IsOutcome.forDelivery` — what the service passes to `record_outcome`
* `Step.dispatched` — a worker dispatches only what it has claimed
-/

namespace OutboundWebhook

variable (P : Platform)

/-- The beginning of a call. -/
inductive Call
  | enqueue (plugin : OutboundWebhookPlugin P) (caller : Option String) (now : OffsetDateTime)
      (request : EnqueueRequest)
  | dispatch (plugin : OutboundWebhookPlugin P) (caller : Option String)
  | inspect (plugin : OutboundWebhookPlugin P) (caller : Option String) (deliveryId : String)
  | replay (plugin : OutboundWebhookPlugin P) (caller : Option String) (deliveryId : String)

/-- What a task waits for: the time, the HTTP result, or its turn. -/
inductive Input
  | clock (now : OffsetDateTime)
  | response (result : Except ClientInvocationError SendResponse)
      (receivedAt decidedAt : OffsetDateTime)
  | turn

inductive Action
  | start (call : Call P)
  | resume (task : Task P) (input : Input)
  /-- The worker stops, and what was left of its call is never done. -/
  | stop (task : Task P)

/-- A call in progress and the time its last stretch took effect. -/
structure Pending where
  task : Task P
  since : Timestamptz

structure Sys where
  db : Db
  now : Timestamptz
  pending : List (Pending P)

/-- What a step did. -/
structure Label where
  begins : Timestamptz
  takesEffect : Timestamptz
  action : Action P
  observation : Observation

variable {P}

/-- The first stretch of a call. -/
def Call.start (call : Call P) (begins : Timestamptz) (locked : List String) (db : Db) :
    Effect P :=
  match call with
  | .enqueue plugin caller now request => enqueueDelivery plugin caller now request begins db
  | .dispatch plugin caller => dispatchDelivery plugin caller begins locked db
  | .inspect plugin caller deliveryId => inspectDelivery plugin caller deliveryId db
  | .replay plugin caller deliveryId => replayDelivery plugin caller deliveryId db

/-- The next stretch of a call, if `input` is what it waits for. -/
def Task.resume (task : Task P) (input : Input) (begins : Timestamptz) (db : Db) :
    Option (Effect P) :=
  match task, input with
  | .claimed plugin prepared delivery, .clock now =>
    some (attemptDelivery plugin prepared delivery now begins db)
  | .posted plugin delivery, .response result receivedAt decidedAt =>
    some (finishDispatch plugin delivery result receivedAt decidedAt begins db)
  | .inspecting delivery, .turn => some (inspectReceipt delivery db)
  | .replaying delivery, .turn => some (replayReceipt delivery db)
  | .replayable deliveryId, .turn => some (replayStored deliveryId begins db)
  | _, _ => none

/-- The state after a stretch, `rest` being the other calls. -/
def Effect.after (effect : Effect P) (takesEffect : Timestamptz) (rest : List (Pending P)) :
    Sys P where
  db := effect.db
  now := takesEffect
  pending := rest ++ (effect.task.map fun task => ⟨task, takesEffect⟩).toList

def Observation.nothing : Observation where
  stored := none
  posted := none
  answer := none

theorem Sys.mem_of_split {s : Sys P} {before after : List (Pending P)} {p : Pending P}
    (h : s.pending = before ++ p :: after) : p ∈ s.pending := by
  rw [h]
  exact List.mem_append_cons_self

/-- One step of the system. -/
inductive Step : Sys P → Label P → Sys P → Prop
  | start {s : Sys P} {begins takesEffect : Timestamptz} {locked : List String} {call : Call P}
      (hbegins : begins ≤ takesEffect) (hnow : s.now ≤ takesEffect) :
      Step s
        ⟨begins, takesEffect, .start call, (call.start begins locked s.db).observation⟩
        ((call.start begins locked s.db).after takesEffect s.pending)
  | resume {s : Sys P} {begins takesEffect : Timestamptz} {before after : List (Pending P)}
      {p : Pending P} {input : Input} {effect : Effect P}
      (hbegins : begins ≤ takesEffect) (hnow : s.now ≤ takesEffect) (hsince : p.since ≤ begins)
      (hpending : s.pending = before ++ p :: after)
      (heffect : p.task.resume input begins s.db = some effect) :
      Step s ⟨begins, takesEffect, .resume p.task input, effect.observation⟩
        (effect.after takesEffect (before ++ after))
  | stop {s : Sys P} {takesEffect : Timestamptz} {before after : List (Pending P)}
      {p : Pending P} (hnow : s.now ≤ takesEffect) (hpending : s.pending = before ++ p :: after) :
      Step s ⟨takesEffect, takesEffect, .stop p.task, .nothing⟩
        ⟨s.db, takesEffect, before ++ after⟩

variable (P) in
/-- The system, from a freshly installed schema. -/
def system : TransitionSystem (Sys P) (Label P) where
  init s := s.db = Db.empty ∧ s.pending = []
  step := Step

/-! ### What a stretch can be -/

section Stretches

variable (begins : Timestamptz) (locked : List String) (db : Db)

/-- Everything the first stretch of a call can be. -/
inductive Call.FirstStretch : Call P → Effect P → Prop
  | enqueueRefused {plugin : OutboundWebhookPlugin P} {caller : Option String}
      {now : OffsetDateTime} {request : EnqueueRequest} (error : FlowError) :
      FirstStretch (.enqueue plugin caller now request)
        (.ended (.enqueue (.error (.error error))) db)
  | enqueued {plugin : OutboundWebhookPlugin P} {caller : Option String} {now : OffsetDateTime}
      {request : EnqueueRequest} {delivery : NewDelivery}
      (hnew : newDelivery plugin caller now request = .ok delivery) :
      FirstStretch (.enqueue plugin caller now request)
        { observation :=
            { stored := some (.enqueue delivery (transact (insertOrGet begins delivery) db).1)
              posted := none
              answer := some (.enqueue (enqueueAnswer delivery.deliveryId
                (transact (insertOrGet begins delivery) db).1)) }
          task := none
          db := (transact (insertOrGet begins delivery) db).2 }
  | dispatchRefused {plugin : OutboundWebhookPlugin P} {caller : Option String}
      (error : AdminFlowError) :
      FirstStretch (.dispatch plugin caller) (.ended (.dispatch (.error (.error error))) db)
  | claimed {plugin : OutboundWebhookPlugin P} {caller : Option String}
      (prepared : PreparedWebhook P plugin.config)
      {result : Except (Abort StoreError) (Option DeliveryRecord)} {db' : Db}
      (hclaim : transact (claimDue begins locked plugin.config.queueName
        plugin.config.leaseSeconds) db = (result, db')) :
      FirstStretch (.dispatch plugin caller)
        { observation :=
            { stored := some (.claim plugin.config.queueName result)
              posted := none
              answer := (claimAnswer plugin prepared result).1 }
          task := (claimAnswer plugin prepared result).2
          db := db' }
  | inspectRefused {plugin : OutboundWebhookPlugin P} {caller : Option String}
      {deliveryId : String} (error : AdminFlowError) :
      FirstStretch (.inspect plugin caller deliveryId)
        (.ended (.inspect (.error (.error error))) db)
  | inspecting {plugin : OutboundWebhookPlugin P} {caller : Option String} {deliveryId : String}
      {delivery : DeliveryRecord} (hload : loadDelivery db deliveryId = some delivery) :
      FirstStretch (.inspect plugin caller deliveryId) (.pending (.inspecting delivery) db)
  | replayRefused {plugin : OutboundWebhookPlugin P} {caller : Option String} {deliveryId : String}
      (error : AdminFlowError) :
      FirstStretch (.replay plugin caller deliveryId)
        (.ended (.replay (.error (.error error))) db)
  | replaying {plugin : OutboundWebhookPlugin P} {caller : Option String} {deliveryId : String}
      {delivery : DeliveryRecord} (hload : loadDelivery db deliveryId = some delivery) :
      FirstStretch (.replay plugin caller deliveryId) (.pending (.replaying delivery) db)

theorem Call.firstStretch (call : Call P) :
    call.FirstStretch begins locked db (call.start begins locked db) := by
  cases call with
  | enqueue plugin caller now request =>
    simp only [Call.start, enqueueDelivery]
    split
    · exact .enqueueRefused _
    · exact .enqueued ‹_›
  | dispatch plugin caller =>
    simp only [Call.start, dispatchDelivery]
    split
    · exact .dispatchRefused _
    · split
      · exact .dispatchRefused _
      · exact .claimed _ rfl
  | inspect plugin caller deliveryId =>
    simp only [Call.start, inspectDelivery]
    split
    · exact .inspectRefused _
    · split
      · exact .inspectRefused _
      · exact .inspecting ‹_›
  | replay plugin caller deliveryId =>
    simp only [Call.start, replayDelivery]
    split
    · exact .replayRefused _
    · split
      · exact .replayRefused _
      · exact .replaying ‹_›

/-- A claim that ends the call answers the dispatch. -/
theorem claimAnswer_answer {plugin : OutboundWebhookPlugin P}
    {prepared : PreparedWebhook P plugin.config}
    {result : Except (Abort StoreError) (Option DeliveryRecord)} {answer : Answer}
    (h : (claimAnswer plugin prepared result).1 = some answer) :
    ∃ response, answer = .dispatch response := by
  rcases result with error | claimed
  · exact ⟨_, (Option.some.inj h).symm⟩
  · cases claimed with
    | none => exact ⟨_, (Option.some.inj h).symm⟩
    | some delivery => cases h

/-- A claim that does not end the call leaves the delivery it has returned. -/
theorem claimAnswer_task {plugin : OutboundWebhookPlugin P}
    {prepared : PreparedWebhook P plugin.config}
    {result : Except (Abort StoreError) (Option DeliveryRecord)} {task : Task P}
    (h : (claimAnswer plugin prepared result).2 = some task) :
    ∃ delivery, result = .ok (some delivery) ∧ task = .claimed plugin prepared delivery := by
  rcases result with error | claimed
  · cases h
  · cases claimed with
    | none => cases h
    | some delivery => exact ⟨delivery, rfl, (Option.some.inj h).symm⟩

/-- Everything a later stretch of a call can be. -/
inductive Task.NextStretch : Task P → Input → Effect P → Prop
  | endpointChanged {plugin : OutboundWebhookPlugin P} {prepared : PreparedWebhook P plugin.config}
      {delivery : DeliveryRecord} {now : OffsetDateTime}
      (hdiffers : endpointDiffers prepared delivery = true) :
      NextStretch (.claimed plugin prepared delivery) (.clock now)
        ((endpointChanged P delivery now).record begins db)
  | unsigned {plugin : OutboundWebhookPlugin P} {prepared : PreparedWebhook P plugin.config}
      {delivery : DeliveryRecord} {now : OffsetDateTime} (error : RuntimeFailure) :
      NextStretch (.claimed plugin prepared delivery) (.clock now)
        (.ended (.dispatch (.error (.error (.runtime error)))) db)
  | posted {plugin : OutboundWebhookPlugin P} {prepared : PreparedWebhook P plugin.config}
      {delivery : DeliveryRecord} {now : OffsetDateTime} {request : SendRequest}
      (hsame : endpointDiffers prepared delivery = false)
      (hrequest : signedRequest prepared delivery now = .ok request) :
      NextStretch (.claimed plugin prepared delivery) (.clock now)
        { observation := { stored := none, posted := some ⟨delivery, request⟩, answer := none }
          task := some (.posted plugin delivery)
          db := db }
  | finished {plugin : OutboundWebhookPlugin P} {delivery : DeliveryRecord}
      {response : Except ClientInvocationError SendResponse}
      {receivedAt decidedAt : OffsetDateTime} {conclusion : Conclusion}
      (hfinish : finishOutcome P plugin.config delivery response receivedAt decidedAt
        = .ok conclusion) :
      NextStretch (.posted plugin delivery) (.response response receivedAt decidedAt)
        (conclusion.record begins db)
  | outOfRange {plugin : OutboundWebhookPlugin P} {delivery : DeliveryRecord}
      {response : Except ClientInvocationError SendResponse}
      {receivedAt decidedAt : OffsetDateTime} {abort : Abort AdminFlowError}
      (hfinish : finishOutcome P plugin.config delivery response receivedAt decidedAt
        = .error abort) :
      NextStretch (.posted plugin delivery) (.response response receivedAt decidedAt)
        (.ended (.dispatch (.error abort)) db)
  | inspected {delivery : DeliveryRecord} :
      NextStretch (.inspecting delivery) .turn (inspectReceipt delivery db)
  | notDeadLetter {delivery : DeliveryRecord} :
      NextStretch (.replaying delivery) .turn
        (.ended (.replay (.error (.error (.replay .notDeadLetter)))) db)
  | replayable {delivery : DeliveryRecord} :
      NextStretch (.replaying delivery) .turn (.pending (.replayable delivery.deliveryId) db)
  | replayed {deliveryId : String} :
      NextStretch (.replayable deliveryId) .turn (replayStored deliveryId begins db)

theorem Task.nextStretch {task : Task P} {input : Input} {effect : Effect P}
    (h : task.resume input begins db = some effect) : task.NextStretch begins db input effect := by
  cases task <;> cases input <;> simp only [Task.resume, Option.some.injEq, reduceCtorEq] at h
  case claimed.clock plugin prepared delivery now =>
    subst h
    rw [attemptDelivery]
    split
    · exact .endpointChanged ‹_›
    · split
      · exact .unsigned _
      · rename_i hsame _ _ hrequest
        exact .posted (Bool.eq_false_iff.mpr hsame) hrequest
  case posted.response =>
    subst h
    rw [finishDispatch]
    split
    · exact .outOfRange ‹_›
    · exact .finished ‹_›
  case inspecting.turn =>
    subst h
    exact .inspected
  case replaying.turn =>
    subst h
    rw [replayReceipt]
    split
    · exact .notDeadLetter
    · exact .replayable
  case replayable.turn =>
    subst h
    exact .replayed

end Stretches

/-! ### What a step writes -/

/-- The outcomes the service may record for a task. -/
inductive IsOutcome : Task P → Conclusion → Prop
  | endpointChanged {plugin : OutboundWebhookPlugin P} {prepared : PreparedWebhook P plugin.config}
      {delivery : DeliveryRecord} (now : OffsetDateTime)
      (hdiffers : endpointDiffers prepared delivery) :
      IsOutcome (.claimed plugin prepared delivery) (endpointChanged P delivery now)
  | finish {plugin : OutboundWebhookPlugin P} {delivery : DeliveryRecord}
      {response : Except ClientInvocationError SendResponse}
      {receivedAt decidedAt : OffsetDateTime} {conclusion : Conclusion}
      (hfinish : finishOutcome P plugin.config delivery response receivedAt decidedAt
        = .ok conclusion) :
      IsOutcome (.posted plugin delivery) conclusion

/-- The delivery a dispatch works on. -/
def Task.dispatched : Task P → Option DeliveryRecord
  | .claimed _ _ delivery => some delivery
  | .posted _ delivery => some delivery
  | _ => none

/-- What holds of every outcome recorded for a claimed delivery. -/
structure OutcomeCall.For (call : OutcomeCall) (delivery : DeliveryRecord) : Prop where
  deliveryId : call.deliveryId = delivery.deliveryId
  replayCount : call.replayCount = delivery.replayCount
  attempt : call.receipt.attempt = delivery.attempts
  notQueued : call.status ≠ .queued
  /-- A retry is scheduled only while attempts are left. -/
  retry : call.status = .retryScheduled → delivery.attempts < delivery.maxAttempts
  /-- A delivery is delivered by a receipt that says so. -/
  delivered : call.status = .delivered → call.receipt.outcome = "delivered"

theorem classify_attempt (delivery : DeliveryRecord) (receivedAt : OffsetDateTime)
    (result : Except SendError SendResponse) :
    (classify P delivery receivedAt result).1.attempt = delivery.attempts := by
  cases result <;> rfl

theorem classify_outcome (delivery : DeliveryRecord) (receivedAt : OffsetDateTime)
    (result : Except SendError SendResponse)
    (h : (classify P delivery receivedAt result).2 = none) :
    (classify P delivery receivedAt result).1.outcome = "delivered" := by
  cases result with
  | error error => simp [classify] at h
  | ok response =>
    simp only [classify] at h ⊢
    rw [h]
    rfl

/-- Everything that a classification can lead to. -/
inductive Decision (config : OutboundWebhookConfig) (delivery : DeliveryRecord)
    (decidedAt : OffsetDateTime) : Option DeliveryFailure →
      Except (Abort AdminFlowError)
        (DeliveryStatus × DispatchResponseOutcome × Option OffsetDateTime) → Prop
  | delivered : Decision config delivery decidedAt none (.ok (.delivered, .delivered, none))
  | retried {failure : DeliveryFailure} {next : OffsetDateTime} (hretryable : failure.retryable)
      (hleft : delivery.attempts < delivery.maxAttempts)
      (hnext : (databaseTimestampNow decidedAt).checkedAdd (retryDelaySeconds delivery.attempts
        config.retryBaseSeconds config.retryMaxSeconds) = some next) :
      Decision config delivery decidedAt (some failure)
        (.ok (.retryScheduled, .retryScheduled, some next))
  | outOfRange {failure : DeliveryFailure} (hretryable : failure.retryable)
      (hleft : delivery.attempts < delivery.maxAttempts)
      (hnext : (databaseTimestampNow decidedAt).checkedAdd (retryDelaySeconds delivery.attempts
        config.retryBaseSeconds config.retryMaxSeconds) = none) :
      Decision config delivery decidedAt (some failure)
        (.error (.panic "resulting value is out of range"))
  | abandoned {failure : DeliveryFailure}
      (hretry : ¬(failure.retryable ∧ delivery.attempts < delivery.maxAttempts)) :
      Decision config delivery decidedAt (some failure) (.ok (.deadLetter, .deadLettered, none))

theorem conclude_decision (config : OutboundWebhookConfig) (delivery : DeliveryRecord)
    (decidedAt : OffsetDateTime) (failure : Option DeliveryFailure) :
    Decision config delivery decidedAt failure (conclude config delivery decidedAt failure) := by
  rcases failure with - | failure
  · exact .delivered
  · simp only [conclude]
    split
    · rename_i hretry
      rw [Bool.and_eq_true, decide_eq_true_eq] at hretry
      split
      · exact .retried hretry.1 hretry.2 ‹_›
      · exact .outOfRange hretry.1 hretry.2 ‹_›
    · rename_i hretry
      rw [Bool.and_eq_true, decide_eq_true_eq] at hretry
      exact .abandoned hretry

/-- **The outcome of a result that is not a runtime failure**, from its classification. -/
theorem finishResult_cases (config : OutboundWebhookConfig) (delivery : DeliveryRecord)
    (receivedAt decidedAt : OffsetDateTime) (result : Except SendError SendResponse) :
    ∃ decision, Decision config delivery decidedAt (classify P delivery receivedAt result).2
        decision ∧
      finishResult P config delivery receivedAt decidedAt result = decision.map fun decided =>
        { call :=
            { deliveryId := delivery.deliveryId
              replayCount := delivery.replayCount
              receipt := (classify P delivery receivedAt result).1
              status := decided.1
              nextAvailableAt := decided.2.2 }
          answer := dispatchResponse P delivery.deliveryId decided.2.1
            (classify P delivery receivedAt result).1 } := by
  refine ⟨_, conclude_decision config delivery decidedAt _, ?_⟩
  rw [finishResult]
  generalize classify P delivery receivedAt result = classified
  obtain ⟨receipt, failure⟩ := classified
  dsimp only
  cases conclude config delivery decidedAt failure <;> rfl

theorem finishResult_for {config : OutboundWebhookConfig} {delivery : DeliveryRecord}
    {receivedAt decidedAt : OffsetDateTime} {result : Except SendError SendResponse}
    {conclusion : Conclusion}
    (h : finishResult P config delivery receivedAt decidedAt result = .ok conclusion) :
    conclusion.call.For delivery := by
  obtain ⟨decision, hdecision, hfinish⟩ :=
    finishResult_cases (P := P) config delivery receivedAt decidedAt result
  rw [hfinish] at h
  have hattempt := classify_attempt (P := P) delivery receivedAt result
  generalize hfailure : (classify P delivery receivedAt result).2 = failure at hdecision
  cases hdecision with
  | delivered =>
    obtain rfl := Except.ok.inj h
    exact ⟨rfl, rfl, hattempt, by simp, by simp,
      fun _ => classify_outcome delivery receivedAt result hfailure⟩
  | retried _ hleft _ =>
    obtain rfl := Except.ok.inj h
    exact ⟨rfl, rfl, hattempt, by simp, fun _ => hleft, by simp⟩
  | outOfRange => cases h
  | abandoned _ =>
    obtain rfl := Except.ok.inj h
    exact ⟨rfl, rfl, hattempt, by simp, by simp, by simp⟩

/-- A call of the port ends with a result of the port or with a runtime failure. -/
theorem response_cases (response : Except ClientInvocationError SendResponse) :
    (∃ result, response = Except.mapError .domain result) ∨
      ∃ error, response = .error (.runtime error) := by
  rcases response with (error | error) | response
  · exact .inl ⟨.error error, rfl⟩
  · exact .inr ⟨error, rfl⟩
  · exact .inl ⟨.ok response, rfl⟩

theorem finishOutcome_mapError (config : OutboundWebhookConfig) (delivery : DeliveryRecord)
    (receivedAt decidedAt : OffsetDateTime) (result : Except SendError SendResponse) :
    finishOutcome P config delivery (Except.mapError .domain result) receivedAt decidedAt
      = finishResult P config delivery receivedAt decidedAt result := by
  cases result <;> rfl

theorem finishOutcome_for {config : OutboundWebhookConfig} {delivery : DeliveryRecord}
    {response : Except ClientInvocationError SendResponse} {receivedAt decidedAt : OffsetDateTime}
    {conclusion : Conclusion}
    (h : finishOutcome P config delivery response receivedAt decidedAt = .ok conclusion) :
    conclusion.call.For delivery := by
  rcases response_cases response with ⟨result, rfl⟩ | ⟨error, rfl⟩
  · rw [finishOutcome_mapError] at h
    exact finishResult_for h
  · obtain rfl := Except.ok.inj h
    exact ⟨rfl, rfl, rfl, by simp, by simp, by simp⟩

theorem endpointChanged_for (delivery : DeliveryRecord) (now : OffsetDateTime) :
    (endpointChanged P delivery now).call.For delivery :=
  ⟨rfl, rfl, rfl, by simp [endpointChanged], by simp [endpointChanged], by simp [endpointChanged]⟩

/-- **What the service passes to `record_outcome`.** -/
theorem IsOutcome.forDelivery {task : Task P} {conclusion : Conclusion}
    (h : IsOutcome task conclusion) :
    ∃ delivery, task.dispatched = some delivery ∧ conclusion.call.For delivery := by
  cases h with
  | endpointChanged now hdiffers =>
    exact ⟨_, rfl, endpointChanged_for _ now⟩
  | finish hfinish =>
    exact ⟨_, rfl, finishOutcome_for hfinish⟩

/-- The transactions the service runs from a state: what is stored, and the tables after it. -/
inductive Writes (s : Sys P) (begins : Timestamptz) : Option Stored → Db → Prop
  | nothing : Writes s begins none s.db
  | enqueue {plugin : OutboundWebhookPlugin P} {caller : Option String} {now : OffsetDateTime}
      {request : EnqueueRequest} {delivery : NewDelivery}
      (hnew : newDelivery plugin caller now request = .ok delivery) :
      Writes s begins (some (.enqueue delivery (transact (insertOrGet begins delivery) s.db).1))
        (transact (insertOrGet begins delivery) s.db).2
  | claim (plugin : OutboundWebhookPlugin P) (locked : List String) :
      Writes s begins
        (some (.claim plugin.config.queueName (transact (claimDue begins locked
          plugin.config.queueName plugin.config.leaseSeconds) s.db).1))
        (transact (claimDue begins locked plugin.config.queueName plugin.config.leaseSeconds)
          s.db).2
  | outcome {pending : Pending P} {conclusion : Conclusion} (hpending : pending ∈ s.pending)
      (hsince : pending.since ≤ begins) (houtcome : IsOutcome pending.task conclusion) :
      Writes s begins
        (some (.outcome conclusion.call (transact (conclusion.call.run begins) s.db).1))
        (transact (conclusion.call.run begins) s.db).2
  | replay (deliveryId : String) :
      Writes s begins (some (.replay deliveryId (transact (beginReplay begins deliveryId) s.db).1))
        (transact (beginReplay begins deliveryId) s.db).2

theorem Call.FirstStretch.writes {s : Sys P} {begins : Timestamptz} {locked : List String}
    {call : Call P} {effect : Effect P} (h : call.FirstStretch begins locked s.db effect) :
    Writes s begins effect.observation.stored effect.db := by
  cases h with
  | enqueued hnew => exact .enqueue hnew
  | @claimed plugin _ _ result db' hclaim =>
    have hwrites : Writes s begins _ _ := .claim plugin locked
    rwa [hclaim] at hwrites
  | _ => exact .nothing

theorem Task.NextStretch.writes {s : Sys P} {p : Pending P} {input : Input}
    {begins : Timestamptz} {effect : Effect P} (h : p.task.NextStretch begins s.db input effect)
    (hp : p ∈ s.pending) (hsince : p.since ≤ begins) :
    Writes s begins effect.observation.stored effect.db := by
  obtain ⟨task, since⟩ := p
  cases h with
  | endpointChanged hdiffers => exact .outcome hp hsince (.endpointChanged _ hdiffers)
  | finished hfinish => exact .outcome hp hsince (.finish hfinish)
  | replayed => exact .replay _
  | _ => exact .nothing

/-- **A step changes the tables by one of the four transactions, or not at all.** -/
theorem Step.writes {s t : Sys P} {l : Label P} (h : Step s l t) :
    Writes s l.begins l.observation.stored t.db := by
  cases h with
  | start hbegins hnow => exact (Call.firstStretch _ _ _ _).writes
  | resume hbegins hnow hsince hpending heffect =>
    exact (Task.nextStretch _ _ heffect).writes (Sys.mem_of_split hpending) hsince
  | stop hnow hpending => exact .nothing

section Inversion

variable {s : Sys P} {begins : Timestamptz} {db' : Db}

theorem Writes.enqueue_inv {delivery : NewDelivery}
    {result : Except (Abort StoreError) InsertOutcome}
    (h : Writes s begins (some (.enqueue delivery result)) db') :
    transact (insertOrGet begins delivery) s.db = (result, db') ∧
      ∃ (plugin : OutboundWebhookPlugin P) (caller : Option String) (now : OffsetDateTime)
        (request : EnqueueRequest), newDelivery plugin caller now request = .ok delivery := by
  cases h with
  | enqueue hnew => exact ⟨rfl, _, _, _, _, hnew⟩

theorem Writes.claim_inv {queueName : String}
    {result : Except (Abort StoreError) (Option DeliveryRecord)}
    (h : Writes s begins (some (.claim queueName result)) db') :
    ∃ (plugin : OutboundWebhookPlugin P) (locked : List String),
      queueName = plugin.config.queueName ∧
        transact (claimDue begins locked plugin.config.queueName plugin.config.leaseSeconds) s.db
          = (result, db') := by
  cases h with
  | claim plugin locked => exact ⟨plugin, locked, rfl, rfl⟩

theorem Writes.outcome_inv {call : OutcomeCall} {result : Except (Abort StoreError) Unit}
    (h : Writes s begins (some (.outcome call result)) db') :
    transact (call.run begins) s.db = (result, db') ∧
      ∃ p ∈ s.pending, ∃ conclusion, conclusion.call = call ∧ p.since ≤ begins ∧
        IsOutcome p.task conclusion := by
  cases h with
  | outcome hp hsince houtcome => exact ⟨rfl, _, hp, _, rfl, hsince, houtcome⟩

theorem Writes.replay_inv {deliveryId : String}
    {result : Except (Abort StoreError) (Option DeliveryRecord)}
    (h : Writes s begins (some (.replay deliveryId result)) db') :
    transact (beginReplay begins deliveryId) s.db = (result, db') := by
  cases h with
  | replay => rfl

theorem Writes.nothing_inv (h : Writes s begins none db') : db' = s.db := by
  cases h with
  | nothing => rfl

end Inversion

/-! ### What the transactions say about one delivery -/

/-- A claim that has returned the delivery. -/
def Stored.claimOf (id : String) : Stored → Option DeliveryRecord
  | .claim _ (.ok (some delivery)) => if delivery.deliveryId = id then some delivery else none
  | _ => none

theorem Stored.claimOf_of_eq {id queueName : String} {delivery : DeliveryRecord}
    (h : delivery.deliveryId = id) :
    (Stored.claim queueName (.ok (some delivery))).claimOf id = some delivery :=
  if_pos h

/-- An outcome that was committed for the delivery. -/
def Stored.outcomeOf (id : String) : Stored → Option OutcomeCall
  | .outcome call (.ok ()) => if call.deliveryId = id then some call else none
  | _ => none

theorem Stored.outcomeOf_of_eq {id : String} {call : OutcomeCall} (h : call.deliveryId = id) :
    (Stored.outcome call (.ok ())).outcomeOf id = some call :=
  if_pos h

/-- A replay of the delivery that has begun. -/
def Stored.replayOf (id : String) : Stored → Option DeliveryRecord
  | .replay deliveryId (.ok (some delivery)) => if deliveryId = id then some delivery else none
  | _ => none

theorem Stored.replayOf_of_eq {id deliveryId : String} {delivery : DeliveryRecord}
    (h : deliveryId = id) :
    (Stored.replay deliveryId (.ok (some delivery))).replayOf id = some delivery :=
  if_pos h

def Observation.claimOf (o : Observation) (id : String) : Option DeliveryRecord :=
  o.stored.bind (Stored.claimOf id)

def Observation.outcomeOf (o : Observation) (id : String) : Option OutcomeCall :=
  o.stored.bind (Stored.outcomeOf id)

def Observation.replayOf (o : Observation) (id : String) : Option DeliveryRecord :=
  o.stored.bind (Stored.replayOf id)

/-! ### Where tasks come from -/

theorem Call.FirstStretch.dispatched {call : Call P} {begins : Timestamptz} {locked : List String}
    {db : Db} {effect : Effect P} (h : call.FirstStretch begins locked db effect) {task : Task P}
    {delivery : DeliveryRecord} (htask : effect.task = some task)
    (hdelivery : task.dispatched = some delivery) :
    ∃ queueName, effect.observation.stored = some (.claim queueName (.ok (some delivery))) := by
  cases h with
  | @claimed plugin caller prepared result db' hclaim =>
    obtain ⟨claimed, rfl, rfl⟩ := claimAnswer_task htask
    obtain rfl := Option.some.inj hdelivery
    exact ⟨plugin.config.queueName, rfl⟩
  | inspecting =>
    simp only [Effect.pending, Option.some.injEq] at htask
    subst htask
    exact nomatch hdelivery
  | replaying =>
    simp only [Effect.pending, Option.some.injEq] at htask
    subst htask
    exact nomatch hdelivery
  | _ => exact nomatch htask

theorem Task.NextStretch.dispatched {task task' : Task P} {input : Input} {begins : Timestamptz}
    {db : Db} {effect : Effect P} (h : task.NextStretch begins db input effect)
    {delivery : DeliveryRecord} (htask : effect.task = some task')
    (hdelivery : task'.dispatched = some delivery) : task.dispatched = some delivery := by
  cases h with
  | posted =>
    simp only [Option.some.injEq] at htask
    subst htask
    exact hdelivery
  | replayable =>
    simp only [Effect.pending, Option.some.injEq] at htask
    subst htask
    exact nomatch hdelivery
  | _ => exact nomatch htask

theorem Effect.mem_after {effect : Effect P} {takesEffect : Timestamptz} {rest : List (Pending P)}
    {p : Pending P} (h : p ∈ (effect.after takesEffect rest).pending) :
    p ∈ rest ∨ effect.task = some p.task ∧ p.since = takesEffect := by
  rcases List.mem_append.mp h with h | h
  · exact .inl h
  · obtain ⟨task, htask, rfl⟩ := Option.map_eq_some_iff.mp (Option.mem_toList.mp h)
    exact .inr ⟨htask, rfl⟩

/-- What a resumed task has done. -/
theorem Step.resume_inv {s t : Sys P} {label : Label P} (h : Step s label t) {task : Task P}
    {input : Input} (haction : label.action = .resume task input) :
    ∃ p ∈ s.pending, p.task = task ∧ p.since ≤ label.begins ∧
      ∃ effect, task.resume input label.begins s.db = some effect ∧
        label.observation = effect.observation ∧ t.db = effect.db := by
  cases h with
  | start => exact nomatch haction
  | @resume begins takesEffect before after p _ effect hbegins hnow hsince hpending heffect =>
    simp only [Action.resume.injEq] at haction
    obtain ⟨rfl, rfl⟩ := haction
    exact ⟨p, Sys.mem_of_split hpending, rfl, hsince, effect, heffect, rfl, rfl⟩
  | stop => exact nomatch haction

/-- A task that is in progress was so before, or a stretch has just left it. -/
theorem Step.mem_pending {s t : Sys P} {l : Label P} (h : Step s l t) {p : Pending P}
    (hp : p ∈ t.pending) :
    p ∈ s.pending ∨
      (∃ call locked effect, l.action = .start call ∧
        call.FirstStretch l.begins locked s.db effect ∧ l.observation = effect.observation ∧
        effect.task = some p.task ∧ p.since = l.takesEffect) ∨
      ∃ q ∈ s.pending, ∃ input effect, q.task.NextStretch l.begins s.db input effect ∧
        effect.task = some p.task := by
  have hrest : ∀ {before after : List (Pending P)} {q : Pending P},
      s.pending = before ++ q :: after → p ∈ before ++ after → p ∈ s.pending := by
    intro before after q hpending hp
    rw [hpending, List.mem_append, List.mem_cons]
    exact (List.mem_append.mp hp).imp_right .inr
  cases h with
  | @start begins takesEffect locked call hbegins hnow =>
    rcases Effect.mem_after hp with hp | ⟨htask, hsince⟩
    · exact .inl hp
    · exact .inr (.inl
        ⟨call, locked, _, rfl, call.firstStretch begins locked s.db, rfl, htask, hsince⟩)
  | @resume begins takesEffect before after q input effect hbegins hnow hsince hpending heffect =>
    rcases Effect.mem_after hp with hp | ⟨htask, -⟩
    · exact .inl (hrest hpending hp)
    · exact .inr (.inr ⟨q, Sys.mem_of_split hpending, input, effect,
        Task.nextStretch begins s.db heffect, htask⟩)
  | stop hnow hpending => exact .inl (hrest hpending hp)

/-- **Where a task in progress comes from.** What the first stretch of a call establishes about the
task it leaves, and later stretches hand on, some step of the run has established. -/
theorem once_of_pending {Q : Pending P → Prop} {R : Pending P → Sys P → Label P → Prop}
    (hfirst : ∀ (s : Sys P) (label : Label P) (call : Call P) (locked : List String)
      (effect : Effect P) (p : Pending P), label.action = .start call →
      call.FirstStretch label.begins locked s.db effect → effect.task = some p.task →
      p.since = label.takesEffect → Q p → R p s label)
    (hnext : ∀ (q p : Pending P) (input : Input) (begins : Timestamptz) (db : Db)
      (effect : Effect P), q.task.NextStretch begins db input effect → effect.task = some p.task →
      Q p → Q q ∧ ∀ s first, R q s first → R p s first)
    {labels : List (Label P)} {t : Sys P} (hrun : (system P).Run labels t) {p : Pending P}
    (hp : p ∈ t.pending) (hQ : Q p) : (system P).Once labels t (R p) := by
  refine hrun.induction (P := fun labels t => ∀ p ∈ t.pending, Q p →
    (system P).Once labels t (R p)) ?_ ?_ p hp hQ
  · rintro s ⟨-, hpending⟩ p hp
    rw [hpending] at hp
    cases hp
  · intro labels s label t hs ih hstep p hp hQ
    rcases Step.mem_pending hstep hp with hp |
      ⟨call, locked, effect, haction, hstretch, -, htask, hsince⟩ |
      ⟨q, hq, input, effect, hstretch, htask⟩
    · exact (ih p hp hQ).snoc hstep
    · exact hs.once_last hstep
        (hfirst s label call locked effect p haction hstretch htask hsince hQ)
    · obtain ⟨hbefore, himp⟩ := hnext q p input _ _ effect hstretch htask hQ
      exact ((ih q hq hbefore).snoc hstep).imp himp

/-- **A worker dispatches only what it has claimed.** -/
theorem Step.dispatched {s t : Sys P} {l : Label P} (h : Step s l t) {p : Pending P}
    {delivery : DeliveryRecord} (hp : p ∈ t.pending)
    (hdelivery : p.task.dispatched = some delivery) :
    (∃ q ∈ s.pending, q.task.dispatched = some delivery) ∨
      ∃ queueName, l.observation.stored = some (.claim queueName (.ok (some delivery))) := by
  rcases h.mem_pending hp with hp | ⟨call, locked, effect, -, hfirst, hobservation, htask, -⟩ |
    ⟨q, hq, input, effect, hnext, htask⟩
  · exact .inl ⟨p, hp, hdelivery⟩
  · rw [hobservation]
    exact .inr (hfirst.dispatched htask hdelivery)
  · exact .inl ⟨q, hq, hnext.dispatched htask hdelivery⟩

end OutboundWebhook
