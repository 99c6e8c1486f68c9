import OutboundWebhook.Dispatch
import OutboundWebhook.History

/-!
# Where a row and a receipt come from

The tables say that a delivery is delivered, or that an attempt has failed, and why. This module
shows that they say so because it happened. Every claim of a run is followed by at most one
request, and the request by at most one recorded result, so what is found in the tables is traced
back step by step: the result that was recorded, the request it is the result of, and the claim the
request was sent for, in this order.

## The invariant

`Traced` speaks of the run so far and of everything that is there: the tasks in progress, the rows
that are being delivered or have been, and the receipts. A task or a row carries the steps that have
led to it, and the next step adds itself at the end.

## Main results

* `delivered_provenance` — a delivered row has been claimed, sent once, and accepted
* `receipt_provenance` — the three origins of a receipt
-/

namespace OutboundWebhook

variable {P : Platform}

/-! ### The steps of a dispatch -/

/-- A claim returns the delivery. -/
def IsClaimOf (delivery : DeliveryRecord) (_ : Sys P) (label : Label P) : Prop :=
  ∃ queueName, label.observation.stored = some (.claim queueName (.ok (some delivery)))

/-- The request of the delivery is sent. -/
def IsPostOf (delivery : DeliveryRecord) (_ : Sys P) (label : Label P) : Prop :=
  ∃ request, label.observation.posted = some ⟨delivery, request⟩

/-- What the HTTP result leads to is recorded. -/
def IsResultOf (delivery : DeliveryRecord) (response : Except ClientInvocationError SendResponse)
    (receivedAt decidedAt : OffsetDateTime) (_ : Sys P) (label : Label P) : Prop :=
  ∃ (plugin : OutboundWebhookPlugin P) (conclusion : Conclusion),
    label.action = .resume (.posted plugin delivery) (.response response receivedAt decidedAt) ∧
    finishOutcome P plugin.config delivery response receivedAt decidedAt = .ok conclusion ∧
    label.observation.stored = some (.outcome conclusion.call (.ok ()))

/-- The delivery is given up because it was stored for another endpoint. -/
def IsMoveOf (delivery : DeliveryRecord) (now : OffsetDateTime) (_ : Sys P) (label : Label P) :
    Prop :=
  ∃ (plugin : OutboundWebhookPlugin P) (prepared : PreparedWebhook P plugin.config),
    label.action = .resume (.claimed plugin prepared delivery) (.clock now) ∧
    endpointDiffers prepared delivery ∧
    label.observation.stored = some (.outcome (endpointChanged P delivery now).call (.ok ()))

/-- A claim that begins at `begins` finds the lease of the delivery expired. -/
def IsExpiryOf (delivery : DeliveryRecord) (begins : Timestamptz) (s : Sys P) (label : Label P) :
    Prop :=
  label.begins = begins ∧
    (∃ queueName result, label.observation.stored = some (.claim queueName (.ok result))) ∧
    ∃ row ∈ s.db.deliveries, row.content = delivery.content ∧ row.number = delivery.number ∧
      row.status = .delivering ∧ row.leaseExpired begins

/-- What a claim of the delivery puts down when its lease has expired. -/
def expiryReceipt (delivery : DeliveryRecord) (begins : Timestamptz) : AttemptRow where
  deliveryId := delivery.deliveryId
  replayCount := delivery.replayCount
  attempt := delivery.attempts
  outcome := "lease_expired"
  httpStatus := none
  responseSha256 := none
  occurredAt := begins

theorem IsRuntimeFailure.not_isDelivery {response : Except ClientInvocationError SendResponse}
    (h : IsRuntimeFailure response) : ¬IsDelivery response := by
  rcases response with error | response
  · exact id
  · exact absurd h id

/-- Only a response that is a delivery delivers. -/
theorem finishOutcome_delivered_iff {config : OutboundWebhookConfig} {delivery : DeliveryRecord}
    {response : Except ClientInvocationError SendResponse} {receivedAt decidedAt : OffsetDateTime}
    {conclusion : Conclusion}
    (h : finishOutcome P config delivery response receivedAt decidedAt = .ok conclusion) :
    conclusion.call.status = .delivered ↔ IsDelivery response := by
  cases finishOutcome_verdict h with
  | delivered hresponse hstatus => simp [hstatus, hresponse]
  | retried hresponse hleft hstatus =>
    exact iff_of_false (by simp [hstatus]) hresponse.disjoint.1
  | abandoned hdelivery hruntime hretry hstatus => simp [hstatus, hdelivery]
  | left hresponse hstatus =>
    refine iff_of_false (by simp [hstatus]) (IsRuntimeFailure.not_isDelivery ?_)
    rw [hresponse]
    trivial

/-! ### One step -/

theorem Task.NextStretch.task_inv {task task' : Task P} {input : Input} {begins : Timestamptz}
    {db : Db} {effect : Effect P} (h : task.NextStretch begins db input effect)
    (htask : effect.task = some task') :
    (∃ plugin prepared delivery request, task = .claimed plugin prepared delivery ∧
      task' = .posted plugin delivery ∧ effect.observation.posted = some ⟨delivery, request⟩) ∨
    ∃ deliveryId, task' = .replayable deliveryId := by
  cases h with
  | posted =>
    simp only [Option.some.injEq] at htask
    exact .inl ⟨_, _, _, _, rfl, htask.symm, rfl⟩
  | replayable =>
    simp only [Effect.pending, Option.some.injEq] at htask
    exact .inr ⟨_, htask.symm⟩
  | _ => cases htask

/-- A task that has claimed did so before, or in this step. -/
theorem Step.claimed_task {s t : Sys P} {label : Label P} (h : Step s label t) {p : Pending P}
    (hp : p ∈ t.pending) {plugin : OutboundWebhookPlugin P}
    {prepared : PreparedWebhook P plugin.config} {delivery : DeliveryRecord}
    (htask : p.task = .claimed plugin prepared delivery) :
    p ∈ s.pending ∨ IsClaimOf delivery s label := by
  rcases h.mem_pending hp with hp | ⟨call, locked, effect, -, hfirst, hobservation, hleft, -⟩ |
    ⟨q, hq, input, effect, hnext, hleft⟩
  · exact .inl hp
  · have hdispatched : p.task.dispatched = some delivery := by rw [htask]; rfl
    obtain ⟨queueName, hstored⟩ := hfirst.dispatched hleft hdispatched
    exact .inr ⟨queueName, hobservation ▸ hstored⟩
  · rcases hnext.task_inv hleft with ⟨_, _, _, _, -, hposted, -⟩ | ⟨_, hreplayable⟩
    · exact nomatch htask.symm.trans hposted
    · exact nomatch htask.symm.trans hreplayable

/-- A task that has sent its request did so before, or in this step. -/
theorem Step.posted_task {s t : Sys P} {label : Label P} (h : Step s label t) {p : Pending P}
    (hp : p ∈ t.pending) {plugin : OutboundWebhookPlugin P} {delivery : DeliveryRecord}
    (htask : p.task = .posted plugin delivery) :
    p ∈ s.pending ∨ (∃ q ∈ s.pending, ∃ prepared, q.task = .claimed plugin prepared delivery) ∧
      IsPostOf delivery s label := by
  cases h with
  | @start begins takesEffect locked call hbegins hnow =>
    rcases Effect.mem_after hp with hp | ⟨hleft, -⟩
    · exact .inl hp
    · have hfirst := call.firstStretch begins locked s.db
      generalize call.start begins locked s.db = effect at hfirst hleft
      rw [htask] at hleft
      cases hfirst with
      | claimed =>
        obtain ⟨_, -, heq⟩ := claimAnswer_task hleft
        cases heq
      | inspecting => cases hleft
      | replaying => cases hleft
      | _ => cases hleft
  | @resume begins takesEffect before after q input effect hbegins hnow hsince hpending heffect =>
    rcases Effect.mem_after hp with hp | ⟨hleft, -⟩
    · rw [hpending]
      refine .inl (List.mem_append.mpr ?_)
      exact (List.mem_append.mp hp).imp_right (List.mem_cons_of_mem _)
    · rcases (Task.nextStretch begins s.db heffect).task_inv hleft with
        ⟨_, prepared, _, request, hclaimed, hposted, hobservation⟩ | ⟨_, hreplayable⟩
      · obtain ⟨rfl, rfl⟩ := Task.posted.inj (htask.symm.trans hposted)
        exact .inr ⟨⟨q, Sys.mem_of_split hpending, prepared, hclaimed⟩, request, hobservation⟩
      · exact nomatch htask.symm.trans hreplayable
  | stop hnow hpending =>
    rw [hpending]
    refine .inl (List.mem_append.mpr ?_)
    exact (List.mem_append.mp hp).imp_right (List.mem_cons_of_mem _)

/-- **An outcome is the result of a request**, or the end of a delivery whose endpoint moved. -/
theorem Step.outcome_task {s t : Sys P} {label : Label P} (h : Step s label t) {call : OutcomeCall}
    (hstored : label.observation.stored = some (.outcome call (.ok ()))) :
    (∃ p ∈ s.pending, ∃ plugin delivery response receivedAt decidedAt conclusion,
      p.task = .posted plugin delivery ∧
      finishOutcome P plugin.config delivery response receivedAt decidedAt = .ok conclusion ∧
      call = conclusion.call ∧ IsResultOf delivery response receivedAt decidedAt s label) ∨
    ∃ p ∈ s.pending, ∃ plugin prepared delivery now,
      p.task = .claimed plugin prepared delivery ∧ call = (endpointChanged P delivery now).call ∧
      IsMoveOf delivery now s label := by
  cases h with
  | @start begins takesEffect locked call hbegins hnow =>
    have hfirst := call.firstStretch begins locked s.db
    generalize call.start begins locked s.db = effect at hfirst hstored
    cases hfirst with
    | _ => cases hstored
  | @resume begins takesEffect before after p input effect hbegins hnow hsince hpending heffect =>
    have hp := Sys.mem_of_split hpending
    have hnext := Task.nextStretch begins s.db heffect
    obtain ⟨task, since⟩ := p
    cases hnext with
    | @endpointChanged plugin prepared delivery now hdiffers =>
      have hcall := hstored
      simp only [Conclusion.record, Option.some.injEq, Stored.outcome.injEq] at hcall
      obtain ⟨rfl, -⟩ := hcall
      exact .inr ⟨_, hp, plugin, prepared, delivery, now, rfl, rfl, plugin, prepared, rfl, hdiffers,
        hstored⟩
    | @finished plugin delivery response receivedAt decidedAt conclusion hfinish =>
      have hcall := hstored
      simp only [Conclusion.record, Option.some.injEq, Stored.outcome.injEq] at hcall
      obtain ⟨rfl, -⟩ := hcall
      exact .inl ⟨_, hp, plugin, delivery, response, receivedAt, decidedAt, conclusion, rfl,
        hfinish, rfl, plugin, conclusion, rfl, hfinish, hstored⟩
    | _ => cases hstored
  | stop => cases hstored

/-! ### The invariant -/

/-- **The three origins of a receipt.** -/
inductive Origin (labels : List (Label P)) (t : Sys P) : AttemptRow → Prop
  /-- The result of the request of the attempt. -/
  | result {delivery : DeliveryRecord} {response : Except ClientInvocationError SendResponse}
      {receivedAt decidedAt : OffsetDateTime}
      (hpassed : (system P).Passed [IsResultOf delivery response receivedAt decidedAt,
        IsPostOf delivery, IsClaimOf delivery] labels t) :
      Origin labels t (receiptOf P delivery receivedAt response)
  /-- The attempt ended before its request. -/
  | moved {delivery : DeliveryRecord} {now : OffsetDateTime}
      (hpassed : (system P).Passed [IsMoveOf delivery now, IsClaimOf delivery] labels t) :
      Origin labels t ((endpointChanged P delivery now).call.receipt.toRow delivery.deliveryId
        delivery.replayCount)
  /-- The lease of the attempt expired. -/
  | expired {delivery : DeliveryRecord} {begins : Timestamptz}
      (hpassed : (system P).Passed [IsExpiryOf delivery begins, IsClaimOf delivery] labels t) :
      Origin labels t (expiryReceipt delivery begins)

/-- The row is at the attempt that the record was claimed for. -/
def DeliveryRow.At (row : DeliveryRow) (delivery : DeliveryRecord) : Prop :=
  row.content = delivery.content ∧ row.number = delivery.number

/-- Everything there is goes back to the steps that have led to it. -/
structure Traced (labels : List (Label P)) (t : Sys P) : Prop where
  claimed : ∀ p ∈ t.pending, ∀ plugin prepared delivery,
    p.task = .claimed plugin prepared delivery → (system P).Passed [IsClaimOf delivery] labels t
  posted : ∀ p ∈ t.pending, ∀ plugin delivery, p.task = .posted plugin delivery →
    (system P).Passed [IsPostOf delivery, IsClaimOf delivery] labels t
  delivering : ∀ id l, t.db.life id = some l → l.row.status = .delivering →
    ∃ delivery, l.row.At delivery ∧ (system P).Passed [IsClaimOf delivery] labels t
  delivered : ∀ id l, t.db.life id = some l → l.row.status = .delivered →
    ∃ delivery response receivedAt decidedAt, l.row.At delivery ∧ IsDelivery response ∧
      (system P).Passed [IsResultOf delivery response receivedAt decidedAt, IsPostOf delivery,
        IsClaimOf delivery] labels t
  receipts : ∀ id l, t.db.life id = some l → ∀ a ∈ l.receipts, Origin labels t a

theorem Origin.snoc {labels : List (Label P)} {label : Label P} {s t : Sys P} {a : AttemptRow}
    (h : Origin labels s a) (hstep : (system P).step s label t) :
    Origin (labels ++ [label]) t a := by
  cases h with
  | result hpassed => exact .result (hpassed.snoc hstep)
  | moved hpassed => exact .moved (hpassed.snoc hstep)
  | expired hpassed => exact .expired (hpassed.snoc hstep)

section Traced

variable {labels : List (Label P)} {label : Label P} {s t : Sys P} {id : String} {l l' : Life}

/-- The receipt an outcome brings. -/
theorem Traced.origin_of_outcome (h : Traced labels s) (hstep : Step s label t) {call : OutcomeCall}
    (hstored : label.observation.stored = some (.outcome call (.ok ()))) :
    Origin (labels ++ [label]) t (call.receipt.toRow call.deliveryId call.replayCount) := by
  rcases hstep.outcome_task hstored with
    ⟨p, hp, plugin, delivery, response, receivedAt, decidedAt, conclusion, htask, hfinish, rfl,
      hresult⟩ |
    ⟨p, hp, plugin, prepared, delivery, now, htask, rfl, hmove⟩
  · have hfor := finishOutcome_for hfinish
    rw [hfor.deliveryId, hfor.replayCount, finishOutcome_receipt hfinish]
    exact .result ((h.posted p hp plugin delivery htask).last hstep hresult)
  · exact .moved ((h.claimed p hp plugin prepared delivery htask).last hstep hmove)

/-- The receipt of an expired lease. -/
theorem Traced.origin_of_expiry (h : Traced labels s) (hstep : Step s label t)
    (hl : s.db.life id = some l) {queueName : String} {result : Option DeliveryRecord}
    (hstored : label.observation.stored = some (.claim queueName (.ok result)))
    (hexpired : l.row.isExpired label.begins queueName) :
    Origin (labels ++ [label]) t (leaseExpiredReceipt label.begins l.row) := by
  obtain ⟨-, hstatus, hlease⟩ := DeliveryRow.isExpired_iff.mp hexpired
  obtain ⟨delivery, ⟨hcontent, hnumber⟩, hpassed⟩ := h.delivering id l hl hstatus
  have hsame : leaseExpiredReceipt label.begins l.row = expiryReceipt delivery label.begins := by
    have hid : l.row.deliveryId = delivery.deliveryId := congrArg Content.deliveryId hcontent
    obtain ⟨hcycle, hattempts⟩ := Prod.mk.inj hnumber
    rw [leaseExpiredReceipt, hid, hcycle, hattempts, expiryReceipt]
  rw [hsame]
  exact .expired (hpassed.last hstep
    ⟨rfl, ⟨queueName, result, hstored⟩, l.row, Db.mem_of_life hl, hcontent, hnumber, hstatus,
      hlease⟩)

/-- The receipts after a step. -/
theorem Traced.receipts_step (h : Traced labels s) (hstep : Step s label t)
    (hl : s.db.life id = some l) {stored : Option Stored}
    (hstored : label.observation.stored = stored)
    (hobserved : Observed label.begins id stored l l') {a : AttemptRow} (ha : a ∈ l'.receipts) :
    Origin (labels ++ [label]) t a := by
  have hold : a ∈ l.receipts → Origin (labels ++ [label]) t a :=
    fun hmem => (h.receipts id l hl a hmem).snoc hstep
  cases hobserved with
  | still => exact hold ha
  | expired hother hexpired =>
    rcases KeyedTable.mem_of_mem_insertNew ha with ha | rfl
    · exact hold ha
    · exact h.origin_of_expiry hstep hl hstored hexpired
  | retired hother hexpired =>
    rcases KeyedTable.mem_of_mem_insertNew ha with ha | rfl
    · exact hold ha
    · exact h.origin_of_expiry hstep hl hstored hexpired
  | claimed => exact hold ha
  | reclaimed leaseSeconds hexpired =>
    rcases KeyedTable.mem_of_mem_insertNew ha with ha | rfl
    · exact hold ha
    · exact h.origin_of_expiry hstep hl hstored hexpired
  | recorded hid =>
    rcases KeyedTable.mem_of_mem_insertNew ha with ha | rfl
    · exact hold ha
    · exact hid ▸ h.origin_of_outcome hstep hstored
  | replayed => exact hold ha

/-- A row that is being delivered after a step. -/
theorem Traced.delivering_step (h : Traced labels s) (hrun : (system P).Run labels s)
    (hstep : Step s label t) (hl : s.db.life id = some l) {stored : Option Stored}
    (hstored : label.observation.stored = stored)
    (hobserved : Observed label.begins id stored l l') (hstatus : l'.row.status = .delivering) :
    ∃ delivery, l'.row.At delivery ∧
      (system P).Passed [IsClaimOf delivery] (labels ++ [label]) t := by
  have hold : l.row.status = .delivering → l'.row.content = l.row.content →
      l'.row.number = l.row.number → ∃ delivery, l'.row.At delivery ∧
        (system P).Passed [IsClaimOf delivery] (labels ++ [label]) t := by
    intro hbefore hcontent hnumber
    obtain ⟨delivery, ⟨hcontent', hnumber'⟩, hpassed⟩ := h.delivering id l hl hbefore
    exact ⟨delivery, ⟨hcontent.trans hcontent', hnumber.trans hnumber'⟩, hpassed.snoc hstep⟩
  have hnew : ∀ queueName, stored = some (.claim queueName (.ok (some (decodeDelivery l'.row)))) →
      ∃ delivery, l'.row.At delivery ∧
        (system P).Passed [IsClaimOf delivery] (labels ++ [label]) t := by
    intro queueName hclaim
    exact ⟨decodeDelivery l'.row, ⟨rfl, rfl⟩,
      hrun.passed hstep ⟨queueName, hstored.trans hclaim⟩⟩
  cases hobserved with
  | still => exact hold hstatus rfl rfl
  | expired => exact hold hstatus rfl rfl
  | retired => cases hstatus
  | claimed => exact hnew _ rfl
  | reclaimed => exact hnew _ rfl
  | recorded hid hfenced => exact hold (DeliveryRow.isFenced_iff.mp hfenced).2.2.1 rfl rfl
  | replayed => cases hstatus

/-- A delivered row after a step. -/
theorem Traced.delivered_step (h : Traced labels s) (hinv : s.Inv) (hstep : Step s label t)
    (hl : s.db.life id = some l) {stored : Option Stored}
    (hstored : label.observation.stored = stored)
    (hobserved : Observed label.begins id stored l l') (hstatus : l'.row.status = .delivered) :
    ∃ delivery response receivedAt decidedAt, l'.row.At delivery ∧ IsDelivery response ∧
      (system P).Passed [IsResultOf delivery response receivedAt decidedAt, IsPostOf delivery,
        IsClaimOf delivery] (labels ++ [label]) t := by
  have hold : l.row.status = .delivered → l'.row = l.row →
      ∃ delivery response receivedAt decidedAt, l'.row.At delivery ∧ IsDelivery response ∧
        (system P).Passed [IsResultOf delivery response receivedAt decidedAt, IsPostOf delivery,
          IsClaimOf delivery] (labels ++ [label]) t := by
    intro hbefore hrow
    obtain ⟨delivery, response, receivedAt, decidedAt, hat, hdelivery, hpassed⟩ :=
      h.delivered id l hl hbefore
    exact ⟨delivery, response, receivedAt, decidedAt, hrow ▸ hat, hdelivery, hpassed.snoc hstep⟩
  cases hobserved with
  | still => exact hold hstatus rfl
  | expired => exact hold hstatus rfl
  | retired => cases hstatus
  | claimed => cases hstatus
  | reclaimed => cases hstatus
  | @recorded call _ hid hfenced =>
    rcases hstep.outcome_task hstored with
      ⟨p, hp, plugin, delivery, response, receivedAt, decidedAt, conclusion, htask, hfinish, rfl,
        hresult⟩ |
      ⟨p, hp, plugin, prepared, delivery, now, htask, rfl, hmove⟩
    · have hfor := finishOutcome_for hfinish
      have hdispatched : p.task.dispatched = some delivery := by rw [htask]; rfl
      subst hid
      obtain ⟨hcontent, hnumber⟩ :=
        hinv.fenced hp hdispatched hfor (Db.mem_of_life hl) hfenced
      refine ⟨delivery, response, receivedAt, decidedAt, ⟨hcontent, hnumber⟩, ?_,
        (h.posted p hp plugin delivery htask).last hstep hresult⟩
      exact (finishOutcome_delivered_iff hfinish).mp hstatus
    · cases hstatus
  | replayed => cases hstatus

/-- A life is a newborn, or the transaction has moved it. -/
theorem Refines.newborn_or {begins : Timestamptz} {stored : Option Stored} {db db' : Db}
    (h : Refines P begins stored db db') {id : String} {l' : Life} (hl' : db'.life id = some l') :
    (db.life id = none ∧ l'.Newborn P) ∨
      ∃ l, db.life id = some l ∧ Observed begins id stored l l' := by
  cases hl : db.life id with
  | none => exact .inl ⟨rfl, h.born id l' hl hl'⟩
  | some l =>
    obtain ⟨l₁, hl₁, hobserved⟩ := h.moves id l hl
    obtain rfl := Option.some.inj (hl₁.symm.trans hl')
    exact .inr ⟨l, rfl, hobserved⟩

/-- **The next step adds itself.** -/
theorem Traced.step (h : Traced labels s) (hrun : (system P).Run labels s)
    (hstep : Step s label t) : Traced (labels ++ [label]) t := by
  have hinv := reachable_inv hrun.reachable
  have hrefines := hstep.writes.refines hinv
  refine ⟨?_, ?_, ?_, ?_, ?_⟩
  · intro p hp plugin prepared delivery htask
    rcases hstep.claimed_task hp htask with hp | hclaim
    · exact (h.claimed p hp plugin prepared delivery htask).snoc hstep
    · exact hrun.passed hstep hclaim
  · intro p hp plugin delivery htask
    rcases hstep.posted_task hp htask with hp | ⟨⟨q, hq, prepared, hclaimed⟩, hpost⟩
    · exact (h.posted p hp plugin delivery htask).snoc hstep
    · exact (h.claimed q hq plugin prepared delivery hclaimed).last hstep hpost
  · intro id l' hl' hstatus
    rcases hrefines.newborn_or hl' with
      ⟨-, plugin, request, delivery, begins, -, rfl⟩ | ⟨l, hl, hobserved⟩
    · cases hstatus
    · exact h.delivering_step hrun hstep hl rfl hobserved hstatus
  · intro id l' hl' hstatus
    rcases hrefines.newborn_or hl' with
      ⟨-, plugin, request, delivery, begins, -, rfl⟩ | ⟨l, hl, hobserved⟩
    · cases hstatus
    · exact h.delivered_step hinv hstep hl rfl hobserved hstatus
  · intro id l' hl' a ha
    rcases hrefines.newborn_or hl' with
      ⟨-, plugin, request, delivery, begins, -, rfl⟩ | ⟨l, hl, hobserved⟩
    · cases ha
    · exact h.receipts_step hstep hl rfl hobserved ha

theorem traced_of_run {labels : List (Label P)} {t : Sys P} (hrun : (system P).Run labels t) :
    Traced labels t := by
  refine hrun.induction (P := Traced) ?_ fun labels s label t hs h hstep => h.step hs hstep
  intro s hinit
  have hnone := life_of_init hinit
  refine ⟨?_, ?_, ?_, ?_, ?_⟩
  · intro p hp
    simp [hinit.2] at hp
  · intro p hp
    simp [hinit.2] at hp
  · intro id l hl
    simp [hnone] at hl
  · intro id l hl
    simp [hnone] at hl
  · intro id l hl
    simp [hnone] at hl

end Traced

/-! ### Where a row and a receipt come from -/

theorem mem_claimsOf {labels : List (Label P)} {s : Sys P} {label : Label P}
    (hlabel : label ∈ labels) {delivery : DeliveryRecord} (hclaim : IsClaimOf delivery s label) :
    delivery.number ∈ claimsOf delivery.deliveryId labels := by
  obtain ⟨queueName, hstored⟩ := hclaim
  refine List.mem_filterMap.mpr ⟨label, hlabel, ?_⟩
  rw [Observation.claimOf, hstored, Option.bind_some, Stored.claimOf_of_eq rfl, Option.map_some]

theorem mem_postsOf {labels : List (Label P)} {s : Sys P} {label : Label P}
    (hlabel : label ∈ labels) {delivery : DeliveryRecord} (hpost : IsPostOf delivery s label) :
    delivery.number ∈ postsOf delivery.deliveryId labels := by
  obtain ⟨request, hposted⟩ := hpost
  refine List.mem_filterMap.mpr ⟨label, hlabel, ?_⟩
  simp [Observation.postOf, hposted, Option.filter]

theorem mem_leavingsOf {labels : List (Label P)} {s : Sys P} {label : Label P}
    (hlabel : label ∈ labels) {delivery : DeliveryRecord}
    {response : Except ClientInvocationError SendResponse} {receivedAt decidedAt : OffsetDateTime}
    (hdelivery : IsDelivery response)
    (hresult : IsResultOf delivery response receivedAt decidedAt s label) :
    delivery.number ∈ leavingsOf delivery.deliveryId labels := by
  obtain ⟨plugin, conclusion, -, hfinish, hstored⟩ := hresult
  have hfor := finishOutcome_for hfinish
  have hstatus : conclusion.call.status = .delivered :=
    (finishOutcome_delivered_iff hfinish).mpr hdelivery
  have hnumber : conclusion.call.number = delivery.number := by
    rw [OutcomeCall.number, hfor.replayCount, hfor.attempt]
    rfl
  refine List.mem_filterMap.mpr ⟨label, hlabel, ?_⟩
  rw [Observation.outcomeOf, hstored, Option.bind_some, Stored.outcomeOf_of_eq hfor.deliveryId]
  simp [Option.filter, hstatus, hnumber]

/-- **A delivered row was claimed, sent once, and accepted.** The result that made it delivered is a
response of the endpoint to the one request that was sent for its attempt. -/
theorem delivered_provenance (P : Platform) {labels : List (Label P)} {t : Sys P}
    (hrun : (system P).Run labels t) {row : DeliveryRow} (hrow : row ∈ t.db.deliveries)
    (hstatus : row.status = .delivered) :
    (∃ delivery response receivedAt decidedAt, row.At delivery ∧ IsDelivery response ∧
      (system P).Passed [IsResultOf delivery response receivedAt decidedAt, IsPostOf delivery,
        IsClaimOf delivery] labels t) ∧
    (claimsOf row.deliveryId labels).count row.number = 1 ∧
    (postsOf row.deliveryId labels).count row.number = 1 ∧
    (leavingsOf row.deliveryId labels).count row.number = 1 := by
  obtain ⟨delivery, response, receivedAt, decidedAt, hat, hdelivery, hpassed⟩ :=
    (traced_of_run hrun).delivered _ _ (Db.life_of_mem hrow) hstatus
  have hid : row.deliveryId = delivery.deliveryId := congrArg Content.deliveryId hat.1
  have hnumber : row.number = delivery.number := hat.2
  refine ⟨⟨delivery, response, receivedAt, decidedAt, hat, hdelivery, hpassed⟩, ?_⟩
  obtain ⟨claim, hclaimMem, s₁, hclaim⟩ :=
    hpassed.exists_of_mem (R := IsClaimOf delivery) (by simp)
  obtain ⟨post, hpostMem, s₂, hpost⟩ := hpassed.exists_of_mem (R := IsPostOf delivery) (by simp)
  obtain ⟨result, hresultMem, s₃, hresult⟩ :=
    hpassed.exists_of_mem (R := IsResultOf delivery response receivedAt decidedAt) (by simp)
  rw [hid, hnumber]
  have hone := List.count_eq_one_of_mem (claimsOf_nodup hrun delivery.deliveryId)
    (mem_claimsOf hclaimMem hclaim)
  refine ⟨hone, ?_, List.count_eq_one_of_mem (leavingsOf_nodup hrun delivery.deliveryId)
    (mem_leavingsOf hresultMem hdelivery hresult)⟩
  have hle := count_postsOf_le hrun delivery.deliveryId delivery.number
  have hpos := List.count_pos_iff.mpr (mem_postsOf hpostMem hpost)
  omega

/-- The first order, delivered. -/
theorem delivered_provenance_first :
    ∃ labels t row delivery response receivedAt decidedAt, (system reference).Run labels t ∧
      row ∈ t.db.deliveries ∧ row.status = .delivered ∧ row.At delivery ∧ IsDelivery response ∧
      (system reference).Passed [IsResultOf delivery response receivedAt decidedAt,
        IsPostOf delivery, IsClaimOf delivery] labels t ∧
      (postsOf row.deliveryId labels).count row.number = 1 := by
  obtain ⟨labels, s, label, t, hrun, -, hstep, -, -, -, hdelivered, -⟩ := exists_first_delivered
  obtain ⟨hrow, -⟩ := Db.delivery_eq_some_iff.mp hdelivered
  obtain ⟨⟨delivery, response, receivedAt, decidedAt, hat, hdelivery, hpassed⟩, -, hposts, -⟩ :=
    delivered_provenance reference (hrun.snoc hstep) hrow rfl
  exact ⟨_, t, _, delivery, response, receivedAt, decidedAt, hrun.snoc hstep, hrow, rfl, hat,
    hdelivery, hpassed, hposts⟩

/-- A receipt is for an attempt that has been claimed. -/
theorem Origin.claimed {labels : List (Label P)} {t : Sys P} {a : AttemptRow}
    (h : Origin labels t a) : a.number ∈ claimsOf a.deliveryId labels := by
  have hclaimed : ∀ {conditions : List (Sys P → Label P → Prop)} (delivery : DeliveryRecord),
      (system P).Passed conditions labels t → IsClaimOf delivery ∈ conditions →
      delivery.number ∈ claimsOf delivery.deliveryId labels := by
    intro conditions delivery hpassed hmem
    obtain ⟨label, hlabel, s, hclaim⟩ := hpassed.exists_of_mem hmem
    exact mem_claimsOf hlabel hclaim
  cases h with
  | @result delivery _ _ _ hpassed => exact hclaimed delivery hpassed (by simp)
  | @moved delivery _ hpassed => exact hclaimed delivery hpassed (by simp)
  | @expired delivery _ hpassed => exact hclaimed delivery hpassed (by simp)

/-- **Every receipt has one of three origins**, and each of them begins with the claim of the
attempt the receipt is for. The attempt has been claimed once, and no more than one request has been
sent for it. -/
theorem receipt_provenance (P : Platform) {labels : List (Label P)} {t : Sys P}
    (hrun : (system P).Run labels t) {a : AttemptRow} (ha : a ∈ t.db.attempts) :
    Origin labels t a ∧ (claimsOf a.deliveryId labels).count a.number = 1 ∧
      (postsOf a.deliveryId labels).count a.number ≤ 1 := by
  obtain ⟨row, hrow, hid⟩ := List.mem_map.mp (t.db.attempts_fkey a ha)
  have hlife := Db.life_of_mem hrow
  rw [hid] at hlife
  have horigin := (traced_of_run hrun).receipts _ _ hlife a (Db.mem_receipts.mpr ⟨ha, rfl⟩)
  have hone := List.count_eq_one_of_mem (claimsOf_nodup hrun a.deliveryId) horigin.claimed
  exact ⟨horigin, hone, hone ▸ count_postsOf_le hrun a.deliveryId a.number⟩

/-- The receipt of the first order. -/
theorem receipt_provenance_first :
    ∃ labels t a, (system reference).Run labels t ∧ a ∈ t.db.attempts ∧ a.outcome = "delivered" ∧
      Origin labels t a ∧ (claimsOf a.deliveryId labels).count a.number = 1 := by
  obtain ⟨labels, s, label, t, hrun, -, hstep, -, -, -, -, hattempts⟩ := exists_first_delivered
  have ha := List.mem_singleton.mpr (rfl : (deliveredOutcome reference
    (decodeDelivery (firstOrder.row 0)) [] 0).receipt.toRow firstOrder.delivery.deliveryId 0 = _)
  rw [← hattempts] at ha
  obtain ⟨horigin, hone, -⟩ := receipt_provenance reference (hrun.snoc hstep) ha
  exact ⟨_, t, _, hrun.snoc hstep, ha, rfl, horigin, hone⟩

end OutboundWebhook
