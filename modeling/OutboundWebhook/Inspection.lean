import OutboundWebhook.Invariants

/-!
# An inspect reads twice

`load` reads the row with one statement and the newest receipt with another, on the pool and in no
transaction. Claims, outcomes and replays may commit in between, so an inspect shows the row as it
was at one state and the newest receipt as it was at a later one. The two fit together whenever
nothing was receipted in between or the row has not changed.

## Which state

The state in which the row was read is that of the call which answers, and not of just any inspect
of the delivery: what is left of the call holds the row, carries the time of its first stretch, and
has been in progress in every state since (`readBy_of_run`).

## Main results

* `readBy_of_run` — where the row of an inspect in progress comes from
* `inspect_reads_twice`
-/

namespace OutboundWebhook

variable {P : Platform}

/-- The inspect in progress was called by this step and read its row in the state before it. -/
def Pending.ReadBy (p : Pending P) (delivery : DeliveryRecord) (s : Sys P) (first : Label P) :
    Prop :=
  (∃ plugin caller, first.action = .start (.inspect plugin caller delivery.deliveryId)) ∧
    p.since = first.takesEffect ∧ loadDelivery s.db delivery.deliveryId = some delivery

theorem loadDelivery_deliveryId {db : Db} {id : String} {delivery : DeliveryRecord}
    (h : loadDelivery db id = some delivery) : delivery.deliveryId = id := by
  obtain ⟨row, hrow, rfl⟩ := Option.map_eq_some_iff.mp h
  exact (Db.delivery_eq_some_iff.mp hrow).2

/-- What is left of an inspect holds the row it has read. -/
theorem Call.FirstStretch.inspecting_inv {call : Call P} {begins : Timestamptz}
    {locked : List String} {db : Db} {effect : Effect P}
    (h : call.FirstStretch begins locked db effect) {delivery : DeliveryRecord}
    (htask : effect.task = some (.inspecting delivery)) :
    (∃ plugin caller, call = .inspect plugin caller delivery.deliveryId) ∧
      loadDelivery db delivery.deliveryId = some delivery := by
  cases h with
  | @claimed plugin caller prepared result db' hclaim =>
    obtain ⟨claimed, -, htask⟩ := claimAnswer_task htask
    cases htask
  | @inspecting plugin caller deliveryId loaded hload =>
    simp only [Effect.pending, Option.some.injEq, Task.inspecting.injEq] at htask
    subst htask
    have hid := loadDelivery_deliveryId hload
    exact ⟨⟨plugin, caller, by rw [hid]⟩, hid ▸ hload⟩
  | replaying => simp [Effect.pending] at htask
  | _ => cases htask

theorem Task.NextStretch.not_inspecting {task : Task P} {input : Input} {begins : Timestamptz}
    {db : Db} {effect : Effect P} (h : task.NextStretch begins db input effect)
    (delivery : DeliveryRecord) : effect.task ≠ some (.inspecting delivery) := by
  cases h <;> simp [Effect.ended, Effect.pending, Conclusion.record, inspectReceipt, replayStored]

/-- **Every inspect in progress was called in the run**, read its row there and has waited since. -/
theorem readBy_of_run {labels : List (Label P)} {t : Sys P} (hrun : (system P).Run labels t)
    {p : Pending P} (hp : p ∈ t.pending) {delivery : DeliveryRecord}
    (htask : p.task = .inspecting delivery) :
    (system P).OnceSince labels t (p.ReadBy delivery) fun u => p ∈ u.pending := by
  refine hrun.induction (P := fun labels t => p ∈ t.pending →
    (system P).OnceSince labels t (p.ReadBy delivery) fun u => p ∈ u.pending) ?_ ?_ hp
  · rintro s ⟨-, hpending⟩ hp
    rw [hpending] at hp
    cases hp
  · intro labels s label t hs ih hstep hp
    rcases Step.mem_pending hstep hp with hbefore |
      ⟨call, locked, effect, haction, hfirst, -, heffect, hsince⟩ |
      ⟨q, hq, input, effect, hnext, heffect⟩
    · exact (ih hbefore).snoc hstep hp
    · rw [htask] at heffect
      obtain ⟨⟨plugin, caller, rfl⟩, hload⟩ := hfirst.inspecting_inv heffect
      exact hs.onceSince_last hstep ⟨⟨plugin, caller, haction⟩, hsince, hload⟩ hp
    · rw [htask] at heffect
      exact absurd heffect (hnext.not_inspecting delivery)

/-- An inspect answers when it has read the newest receipt. -/
theorem Step.inspected_inv {s t : Sys P} {label : Label P} (h : Step s label t)
    {response : InspectResponse}
    (hanswer : label.observation.answer = some (.inspect (.ok response))) :
    ∃ p ∈ s.pending, ∃ delivery, label.action = .resume p.task .turn ∧
      p.task = .inspecting delivery ∧
      inspectResponse P { delivery with lastReceipt := lastReceipt s.db delivery.deliveryId }
        = (.ok response : Except (Abort AdminFlowError) InspectResponse) := by
  cases h with
  | @start begins takesEffect locked call hbegins hnow =>
    have hfirst := call.firstStretch begins locked s.db
    generalize call.start begins locked s.db = effect at hfirst hanswer
    cases hfirst with
    | @claimed plugin caller prepared result db' hclaim =>
      obtain ⟨answer, hdispatch⟩ := claimAnswer_answer hanswer
      cases hdispatch
    | _ => exact nomatch hanswer
  | @resume begins takesEffect before after p input effect hbegins hnow hsince hpending heffect =>
    have hp := Sys.mem_of_split hpending
    have hnext := Task.nextStretch begins s.db heffect
    obtain ⟨task, since⟩ := p
    cases hnext with
    | @inspected delivery =>
      simp only [inspectReceipt, Effect.ended, Option.some.injEq, Answer.inspect.injEq] at hanswer
      exact ⟨_, hp, delivery, rfl, rfl, hanswer⟩
    | _ => exact nomatch hanswer
  | stop => exact nomatch hanswer

variable (P) in
/-- The response is what a load whose two statements read `atRow` and `atReceipt` gives. -/
def Reports (atRow atReceipt : Db) (response : InspectResponse) : Prop :=
  ∃ delivery, load atRow atReceipt response.deliveryId = some delivery ∧
    inspectResponse P delivery = (.ok response : Except (Abort AdminFlowError) InspectResponse)

theorem inspectResponse_eq {ε : Type} {delivery : DeliveryRecord} {response : InspectResponse}
    (h : (inspectResponse P delivery : Except (Abort ε) InspectResponse) = .ok response) :
    response.deliveryId = delivery.deliveryId ∧ response.attempts = delivery.attempts ∧
      response.replayCount = delivery.replayCount ∧ response.status = delivery.status := by
  unfold inspectResponse at h
  cases hreceipt : (delivery.lastReceipt.mapM (responseReceipt P) :
      Except (Abort ε) (Option ResponseReceipt)) with
  | error error => simp [hreceipt, bind, Except.bind] at h
  | ok receipt =>
    simp only [hreceipt, bind, Except.bind, pure, Except.pure, Except.ok.injEq] at h
    rw [← h]
    exact ⟨rfl, rfl, rfl, rfl⟩

theorem load_congr {atRow atReceipt atRow' atReceipt' : Db} {id : String}
    (hrow : atRow'.delivery id = atRow.delivery id)
    (hreceipts : atReceipt'.receipts id = atReceipt.receipts id) :
    load atRow' atReceipt' id = load atRow atReceipt id := by
  rw [load, load, loadDelivery, loadDelivery, hrow, lastReceipt, lastReceipt, hreceipts]

/-- What is reported depends on the row and the receipts of the one delivery. -/
theorem Reports.congr {atRow atReceipt atRow' atReceipt' : Db} {response : InspectResponse}
    (h : Reports P atRow atReceipt response)
    (hrow : atRow'.delivery response.deliveryId = atRow.delivery response.deliveryId)
    (hreceipts : atReceipt'.receipts response.deliveryId
      = atReceipt.receipts response.deliveryId) : Reports P atRow' atReceipt' response := by
  obtain ⟨delivery, hload, hresponse⟩ := h
  exact ⟨delivery, by rw [load_congr hrow hreceipts, hload], hresponse⟩

/-- No receipt is ahead of its row. -/
theorem Sys.Inv.receipts_le {s : Sys P} (hinv : s.Inv) {id : String} {row : DeliveryRow}
    (hrow : s.db.delivery id = some row) {a : AttemptRow} (ha : a ∈ s.db.receipts id) :
    a.number = row.number ∨ Before a.number row.number := by
  have hsound := hinv.sound id _ (Db.life_of_delivery hrow)
  have hledger : Ledger row ((s.db.receipts id).map AttemptRow.number) := hsound.ledger_spec
  have hnonneg := hsound.row.attempts_nonneg
  have hmem : a.number ∈ (s.db.receipts id).map AttemptRow.number := List.mem_map_of_mem ha
  have hcycle : a.replayCount ≤ row.replayCount := (hledger.cycles _ hmem).2
  rcases lt_or_eq_of_le hcycle with hlt | heq
  · exact .inr (.inl hlt)
  have hcurrent : (row.replayCount, a.attempt) ∈ (s.db.receipts id).map AttemptRow.number := by
    rw [← heq]
    exact hmem
  have hle : a.attempt ≤ row.attempts := by
    cases hs : row.status with
    | queued => exact absurd hcurrent (hledger.queued hs _)
    | delivering =>
      rcases hledger.delivering hs with hkeys | hkeys
      · have := (hkeys a.attempt).mp hcurrent
        omega
      · exact ((hkeys a.attempt).mp hcurrent).2
    | retryScheduled => exact ((hledger.atRest (.inl hs) _).mp hcurrent).2
    | delivered => exact ((hledger.atRest (.inr (.inl hs)) _).mp hcurrent).2
    | deadLetter => exact ((hledger.atRest (.inr (.inr hs)) _).mp hcurrent).2
  rcases lt_or_eq_of_le hle with hlt | hsame
  · exact .inr (.inr ⟨heq, hlt⟩)
  · exact .inl (Prod.ext heq hsame)

/-- **An inspect reports the row at one state and the newest receipt at a later one.** Both are
states during the call that answers: `p` is the call, begun by the step that reads the row and in
progress ever since. -/
theorem inspect_reads_twice (P : Platform) {labels : List (Label P)} {s t : Sys P}
    (hrun : (system P).Run labels s) {label : Label P} (hstep : (system P).step s label t)
    {response : InspectResponse}
    (hanswer : label.observation.answer = some (.inspect (.ok response))) :
    ∃ p ∈ s.pending, label.action = .resume p.task .turn ∧
      (system P).OnceSince labels s (fun s₁ first =>
        (∃ plugin caller, first.action = .start (.inspect plugin caller response.deliveryId)) ∧
        p.since = first.takesEffect ∧
        (∃ delivery, p.task = .inspecting delivery ∧
          loadDelivery s₁.db response.deliveryId = some delivery) ∧
        Reports P s₁.db s.db response ∧
        (s.db.receipts response.deliveryId = s₁.db.receipts response.deliveryId →
          Reports P s₁.db s₁.db response) ∧
        (s.db.delivery response.deliveryId = s₁.db.delivery response.deliveryId →
          Reports P s.db s.db response)) (fun u => p ∈ u.pending) ∧
      ∃ row, s.db.delivery response.deliveryId = some row ∧
        ((response.replayCount, response.attempts) = row.number ∨
          Before (response.replayCount, response.attempts) row.number) ∧
        ∀ a ∈ s.db.receipts response.deliveryId,
          a.number = row.number ∨ Before a.number row.number := by
  obtain ⟨p, hp, delivery, haction, htask, hresponse⟩ := Step.inspected_inv hstep hanswer
  have hread := readBy_of_run hrun hp htask
  obtain ⟨hid, hattempts, hcycle, -⟩ := inspectResponse_eq hresponse
  have hid : response.deliveryId = delivery.deliveryId := hid
  have hattempts : response.attempts = delivery.attempts := hattempts
  have hcycle : response.replayCount = delivery.replayCount := hcycle
  refine ⟨p, hp, haction, hread.imp ?_, ?_⟩
  · intro before s₁ first after s₁' hbefore hfirst hpath hreadBy
    obtain ⟨hcall, hsince, hload⟩ := hreadBy
    rw [← hid] at hcall hload
    have hreports : Reports P s₁.db s.db response := by
      refine ⟨_, ?_, hresponse⟩
      rw [load, hload, hid]
      rfl
    refine ⟨hcall, hsince, ⟨delivery, htask, hload⟩, hreports, ?_, ?_⟩
    · intro hsame
      exact hreports.congr rfl hsame.symm
    · intro hsame
      exact hreports.congr hsame rfl
  -- the row has moved on since it was read, if at all
  obtain ⟨before, first, after, s₁, s₁', -, hbefore, hfirst, hpath, -, -, hload⟩ := hread.once
  obtain ⟨row, hrow, hrecord⟩ := Option.map_eq_some_iff.mp hload
  have hmoved := path_evolves hbefore.reachable
    (TransitionSystem.path_cons.mpr ⟨s₁', hfirst, hpath⟩)
  obtain ⟨l, hl, hevolves⟩ := hmoved _ _ (Db.life_of_delivery hrow)
  obtain ⟨hlast, -⟩ := Db.life_eq_some_iff.mp hl
  have hnumber : (response.replayCount, response.attempts) = row.number := by
    rw [hcycle, hattempts, ← hrecord]
    rfl
  refine ⟨l.row, hid ▸ hlast, ?_, ?_⟩
  · rw [hnumber]
    rcases hevolves.progress with heq | hlt
    · exact .inl heq.symm
    · exact .inr hlt
  · intro a ha
    rw [hid] at ha
    exact (reachable_inv hrun.reachable).receipts_le hlast ha

/-- A delivery that is queued in its first cycle has no receipt. -/
theorem Sys.Inv.lastReceipt_of_queued {s : Sys P} (hinv : s.Inv) {id : String} {row : DeliveryRow}
    (hrow : s.db.delivery id = some row) (hstatus : row.status = .queued)
    (hcycle : row.replayCount = 0) : lastReceipt s.db id = none := by
  have hledger : Ledger row ((s.db.receipts id).map AttemptRow.number) :=
    (hinv.sound id _ (Db.life_of_delivery hrow)).ledger_spec
  have hnone : s.db.receipts id = [] := by
    rw [List.eq_nil_iff_forall_not_mem]
    intro a ha
    have hmem : a.number ∈ (s.db.receipts id).map AttemptRow.number := List.mem_map_of_mem ha
    have hzero : a.replayCount = row.replayCount := by
      have hbounds : 0 ≤ a.replayCount ∧ a.replayCount ≤ row.replayCount := hledger.cycles _ hmem
      omega
    refine hledger.queued hstatus a.attempt ?_
    rw [← hzero]
    exact hmem
  rw [lastReceipt_eq_getLast? (hinv.ledger id), hnone]
  rfl

/-- The inspect of the first order that is overtaken by its delivery. -/
theorem exists_overtaken_inspect :
    ∃ before first after s₁ s₁' s label t response, (system reference).Run before s₁ ∧
      (system reference).step s₁ first s₁' ∧ (system reference).Path s₁' after s ∧
      (system reference).step s label t ∧
      (∃ plugin caller, first.action = .start (.inspect plugin caller response.deliveryId)) ∧
      label.observation.answer = some (.inspect (.ok response)) ∧
      response.status = .queued ∧ response.replayCount = 0 ∧ response.attempts = 0 ∧
      response.lastReceipt.map ResponseReceipt.attempt = some 1 := by
  obtain ⟨before, first, after, s₁, s₁', s, label, t, hrun, hfirst, hpath, hstep,
    hcall, hanswer, hattempts⟩ := exists_first_inspected
  have hs : (system reference).Reachable s := (hrun.reachable.step hfirst).path hpath
  have htime : formatTime reference 0 = .ok "1970-01-01T00:00:00Z" := by decide +kernel
  have hreceipts : s.db.receipts firstOrder.delivery.deliveryId = s.db.attempts := by
    rw [Db.receipts, hattempts]
    exact List.filter_cons_of_pos (decide_eq_true rfl)
  have hlast : lastReceipt s.db firstOrder.delivery.deliveryId = some
      (deliveredOutcome reference (decodeDelivery (firstOrder.row 0)) [] 0).receipt := by
    rw [lastReceipt_eq_getLast? ((reachable_inv hs).ledger _), hreceipts, hattempts]
    rfl
  have hreceipt : responseReceipt reference
      (deliveredOutcome reference (decodeDelivery (firstOrder.row 0)) [] 0).receipt
      = (.ok ⟨1, some "200", "1970-01-01T00:00:00Z", "delivered",
        some (sha256Hex reference [])⟩ : Except (Abort AdminFlowError) ResponseReceipt) := by
    simp only [responseReceipt, deliveredOutcome, htime]
    rfl
  rw [hlast] at hanswer
  simp only [inspectResponse, Option.mapM_some, hreceipt] at hanswer
  exact ⟨before, first, after, s₁, s₁', s, label, t, _, hrun, hfirst, hpath, hstep, hcall, hanswer,
    rfl, rfl, rfl, rfl⟩

/-- **An inspect can mix two states.** The row of the first order is read before its claim and its
receipt after its delivery, and no state at all holds both. -/
theorem inspect_mixes_states :
    ∃ before first after s₁ s₁' s label t response, (system reference).Run before s₁ ∧
      (system reference).step s₁ first s₁' ∧ (system reference).Path s₁' after s ∧
      (system reference).step s label t ∧
      (∃ plugin caller, first.action = .start (.inspect plugin caller response.deliveryId)) ∧
      label.observation.answer = some (.inspect (.ok response)) ∧
      (∀ u, (system reference).Reachable u → ¬Reports reference u.db u.db response) ∧
      ∃ receipt, response.lastReceipt = some receipt ∧ response.attempts < receipt.attempt := by
  obtain ⟨before, first, after, s₁, s₁', s, label, t, response, hrun, hfirst, hpath, hstep, hcall,
    hanswer, hstatus, hcycle, hattempts, hlast⟩ := exists_overtaken_inspect
  obtain ⟨receipt, hreceipt, hattempt⟩ := Option.map_eq_some_iff.mp hlast
  refine ⟨before, first, after, s₁, s₁', s, label, t, response, hrun, hfirst, hpath, hstep, hcall,
    hanswer, ?_, receipt, hreceipt, by omega⟩
  intro u hu hreports
  obtain ⟨delivery, hload, hresponse⟩ := hreports
  obtain ⟨loaded, hloaded, rfl⟩ := Option.map_eq_some_iff.mp hload
  obtain ⟨row, hrow, rfl⟩ := Option.map_eq_some_iff.mp hloaded
  obtain ⟨-, -, hcycle', hstatus'⟩ := inspectResponse_eq hresponse
  have hnone : lastReceipt u.db response.deliveryId = none :=
    (reachable_inv hu).lastReceipt_of_queued hrow (hstatus'.symm.trans hstatus)
      (hcycle'.symm.trans hcycle)
  rw [hnone] at hresponse
  have hshown : none = response.lastReceipt :=
    congrArg InspectResponse.lastReceipt (Except.ok.inj hresponse)
  exact nomatch hshown.trans hreceipt

/-- The theorem at that inspect. It has waited since it read the row. -/
theorem inspect_reads_twice_overtaken :
    ∃ (labels : List (Label reference)) (s t : Sys reference) (label : Label reference)
      (response : InspectResponse), (system reference).Run labels s ∧
      (system reference).step s label t ∧
      label.observation.answer = some (.inspect (.ok response)) ∧
      ∃ p ∈ s.pending, label.action = .resume p.task .turn ∧
        (system reference).OnceSince labels s (fun s₁ first =>
          (∃ plugin caller, first.action = .start (.inspect plugin caller response.deliveryId)) ∧
          p.since = first.takesEffect ∧
          (∃ delivery, p.task = .inspecting delivery ∧
            loadDelivery s₁.db response.deliveryId = some delivery) ∧
          Reports reference s₁.db s.db response ∧
          (s.db.receipts response.deliveryId = s₁.db.receipts response.deliveryId →
            Reports reference s₁.db s₁.db response) ∧
          (s.db.delivery response.deliveryId = s₁.db.delivery response.deliveryId →
            Reports reference s.db s.db response)) (fun u => p ∈ u.pending) ∧
        ∃ row, s.db.delivery response.deliveryId = some row ∧
          ((response.replayCount, response.attempts) = row.number ∨
            Before (response.replayCount, response.attempts) row.number) ∧
          ∀ a ∈ s.db.receipts response.deliveryId,
            a.number = row.number ∨ Before a.number row.number := by
  obtain ⟨before, first, after, s₁, s₁', s, label, t, response, hrun, hfirst, hpath, hstep, -,
    hanswer, -⟩ := exists_overtaken_inspect
  have hs := (hrun.snoc hfirst).append hpath
  exact ⟨_, s, t, label, response, hs, hstep, hanswer,
    inspect_reads_twice reference hs hstep hanswer⟩

end OutboundWebhook
