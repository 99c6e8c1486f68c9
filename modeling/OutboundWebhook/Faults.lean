import OutboundWebhook.Foundations.Simulation
import OutboundWebhook.Fencing
import OutboundWebhook.Idempotency
import OutboundWebhook.Invariants

/-!
# Database failures

In `system` every statement answers. Here any of them may fail: a connection is lost, the server
restarts, the pool was closed by a deactivation. `sqlx` then returns an error, the store wraps it
with the name of the operation, and the call ends.

## What a failure leaves behind

A transaction that fails before its commit is rolled back, because a `sqlx` transaction that is
dropped is. A `COMMIT` that fails is the awkward case: the server may have committed and only the
acknowledgement may be lost. The caller is told of an error, and the tables have changed. The same
is true of `begin_replay`, a single statement outside a transaction.

## Nothing new can happen

To the tables, a call that fails before its commit is a call whose worker stopped, and a call whose
commit was not acknowledged is a call that succeeded and whose worker stopped then. So every run
with failures shows the transactions and the requests of a run without (`failures_add_no_run`), and
what is proved of the tables and of the histories of `system` is true here.

## Main results

* `failures_add_no_run` — the simulation, for whole runs
* `safety_under_failures` — what it carries over
* `submission_under_failures` — an event whose commit was not acknowledged may be submitted again
-/

namespace OutboundWebhook

variable {P : Platform}

/-! ### Statements that may fail -/

/-- The statements of a transaction, by the names their errors carry, up to the commit. -/
def Stored.statements : Stored → List String
  | .enqueue _ (.ok (.created _)) => ["begin enqueue", "insert delivery"]
  | .enqueue _ _ => ["begin enqueue", "insert delivery", "read idempotent delivery"]
  | .claim _ _ => ["begin delivery claim", "claim due delivery"]
  | .outcome _ _ => ["begin record receipt", "insert delivery receipt", "update delivery outcome"]
  | .replay _ _ => []

/-- The commit. A replay is one statement, which commits itself. -/
def Stored.commit : Stored → String
  | .enqueue _ (.ok (.created _)) => "commit delivery enqueue"
  | .enqueue _ _ => "commit idempotent delivery"
  | .claim _ _ => "commit delivery claim"
  | .outcome _ _ => "commit delivery receipt"
  | .replay _ _ => "begin dead-letter replay"

/-- The transaction got to its commit. -/
def Stored.succeeded : Stored → Bool
  | .enqueue _ result => result.isOk
  | .claim _ result => result.isOk
  | .outcome _ result => result.isOk
  | .replay _ result => result.isOk

/-- The call begins by reading a row. -/
inductive Call.Reads : Call P → String → Prop
  | inspect {plugin : OutboundWebhookPlugin P} {caller : Option String} {deliveryId : String}
      (hchecked : adminRequest plugin caller deliveryId (AdminFlowError.inspect .forbidden)
        (.inspect .invalidDelivery) .runtime = .ok ()) :
      Reads (.inspect plugin caller deliveryId) "load delivery"
  | replay {plugin : OutboundWebhookPlugin P} {caller : Option String} {deliveryId : String}
      (hchecked : adminRequest plugin caller deliveryId (AdminFlowError.replay .forbidden)
        (.replay .invalidDelivery) .runtime = .ok ()) :
      Reads (.replay plugin caller deliveryId) "load delivery"

/-- The task goes on by reading the newest receipt. -/
inductive Task.Reads : Task P → String → Prop
  | inspecting (delivery : DeliveryRecord) : Reads (.inspecting delivery) "load delivery receipt"
  | replaying (delivery : DeliveryRecord) : Reads (.replaying delivery) "load delivery receipt"

/-! ### Calls that end with a store error -/

/-- What a call answers when its store call has failed. -/
def Call.failed : Call P → StoreError → Answer
  | .enqueue .., error => .enqueue (.error (mapStoreFailure .runtime (.error error)))
  | .dispatch .., error => .dispatch (.error (mapStoreFailure .runtime (.error error)))
  | .inspect .., error => .inspect (.error (mapStoreFailure .runtime (.error error)))
  | .replay .., error => .replay (.error (mapStoreFailure .runtime (.error error)))

/-- The same for a call that has gone on. -/
def Task.failed : Task P → StoreError → Answer
  | .claimed .., error => .dispatch (.error (mapStoreFailure .runtime (.error error)))
  | .posted .., error => .dispatch (.error (mapStoreFailure .runtime (.error error)))
  | .inspecting _, error => .inspect (.error (mapStoreFailure .runtime (.error error)))
  | .replaying _, error => .replay (.error (mapStoreFailure .runtime (.error error)))
  | .replayable _, error => .replay (.error (mapStoreFailure .runtime (.error error)))

/-- The answer tells of the store error. -/
inductive Answer.OfStoreError (error : StoreError) : Answer → Prop
  | enqueue : OfStoreError error (.enqueue (.error (.error (.runtime (storeFailure error)))))
  | dispatch : OfStoreError error (.dispatch (.error (.error (.runtime (storeFailure error)))))
  | inspect : OfStoreError error (.inspect (.error (.error (.runtime (storeFailure error)))))
  | replay : OfStoreError error (.replay (.error (.error (.runtime (storeFailure error)))))

theorem Call.failed_ofStoreError (call : Call P) (error : StoreError) :
    (call.failed error).OfStoreError error := by
  cases call with
  | enqueue => exact .enqueue
  | dispatch => exact .dispatch
  | inspect => exact .inspect
  | replay => exact .replay

theorem Task.failed_ofStoreError (task : Task P) (error : StoreError) :
    (task.failed error).OfStoreError error := by
  cases task with
  | claimed => exact .dispatch
  | posted => exact .dispatch
  | inspecting => exact .inspect
  | replaying => exact .replay
  | replayable => exact .replay

section Fails

variable (failed : StoreError → Answer) (reads : String → Prop) (db : Db)

/-- What becomes of the stretch `effect` when the database fails in it. -/
inductive Effect.Fails (effect : Effect P) : Effect P → Prop
  /-- The transaction is rolled back. -/
  | rolledBack {stored : Stored} {operation : String} (source : String)
      (hstored : effect.observation.stored = some stored)
      (hoperation : operation ∈ stored.statements ++ [stored.commit]) :
      Fails effect (.ended (failed (.database operation source)) db)
  /-- The transaction is committed and the acknowledgement is lost. -/
  | unacknowledged {stored : Stored} (source : String)
      (hstored : effect.observation.stored = some stored) (hok : stored.succeeded) :
      Fails effect
        { observation :=
            { stored := some stored
              posted := effect.observation.posted
              answer := some (failed (.database stored.commit source)) }
          task := none
          db := effect.db }
  /-- A read fails. -/
  | unread {operation : String} (source : String) (hreads : reads operation) :
      Fails effect (.ended (failed (.database operation source)) db)

end Fails

/-- A step of the system, or a step in which the database fails. -/
inductive FaultyStep : Sys P → Label P → Sys P → Prop
  | works {s t : Sys P} {label : Label P} (h : Step s label t) : FaultyStep s label t
  | start {s : Sys P} {begins takesEffect : Timestamptz} {locked : List String} {call : Call P}
      {effect : Effect P} (hbegins : begins ≤ takesEffect) (hnow : s.now ≤ takesEffect)
      (hfails : (call.start begins locked s.db).Fails call.failed call.Reads s.db effect) :
      FaultyStep s ⟨begins, takesEffect, .start call, effect.observation⟩
        (effect.after takesEffect s.pending)
  | resume {s : Sys P} {begins takesEffect : Timestamptz} {before after : List (Pending P)}
      {p : Pending P} {input : Input} {normal effect : Effect P}
      (hbegins : begins ≤ takesEffect) (hnow : s.now ≤ takesEffect) (hsince : p.since ≤ begins)
      (hpending : s.pending = before ++ p :: after)
      (hnormal : p.task.resume input begins s.db = some normal)
      (hfails : normal.Fails p.task.failed p.task.Reads s.db effect) :
      FaultyStep s ⟨begins, takesEffect, .resume p.task input, effect.observation⟩
        (effect.after takesEffect (before ++ after))

variable (P) in
/-- The system over a database that fails. -/
def faulty : TransitionSystem (Sys P) (Label P) where
  init s := s.db = Db.empty ∧ s.pending = []
  step := FaultyStep

/-! ### What the tables and the network see -/

/-- What a step did to the tables or sent, without what its caller was told. -/
def Label.trace (label : Label P) : Option (Label P) :=
  if label.observation.stored = none ∧ label.observation.posted = none then none
  else some { label with observation := { label.observation with answer := none } }

/-- A history that is read off what the tables and the network see. -/
theorem filterMap_trace {α : Type} (f : Label P → Option α)
    (hnone : ∀ label, label.observation.stored = none → label.observation.posted = none →
      f label = none)
    (hanswer : ∀ label, f { label with observation := { label.observation with answer := none } }
      = f label) (labels : List (Label P)) :
    labels.filterMap f = (labels.filterMap Label.trace).filterMap f := by
  rw [List.filterMap_filterMap]
  refine List.filterMap_congr ?_
  intro label _
  unfold Label.trace
  split
  · rename_i h
    rw [hnone label h.1 h.2]
    rfl
  · rw [Option.bind_some, hanswer]

theorem claimsOf_trace (id : String) (labels : List (Label P)) :
    claimsOf id labels = claimsOf id (labels.filterMap Label.trace) := by
  refine filterMap_trace _ ?_ (fun _ => rfl) labels
  intro label hstored _
  rw [Observation.claimOf, hstored]
  rfl

theorem postsOf_trace (id : String) (labels : List (Label P)) :
    postsOf id labels = postsOf id (labels.filterMap Label.trace) := by
  refine filterMap_trace _ ?_ (fun _ => rfl) labels
  intro label _ hposted
  rw [Observation.postOf, hposted]
  rfl

theorem leavingsOf_trace (id : String) (labels : List (Label P)) :
    leavingsOf id labels = leavingsOf id (labels.filterMap Label.trace) := by
  refine filterMap_trace _ ?_ (fun _ => rfl) labels
  intro label hstored _
  rw [Observation.outcomeOf, hstored]
  rfl

/-! ### The simulation -/

/-- The system without failures, in the same state. Its clock may be behind. -/
structure Sys.Behind (s t : Sys P) : Prop where
  db : t.db = s.db
  pending : t.pending = s.pending
  now : t.now ≤ s.now

/-- The worker stops, and nobody sees it. -/
theorem exists_stop {s : Sys P} {t : Timestamptz} {before after : List (Pending P)} {p : Pending P}
    (hnow : s.now ≤ t) (hpending : s.pending = before ++ p :: after) :
    (system P).Path s [⟨t, t, .stop p.task, .nothing⟩] ⟨s.db, t, before ++ after⟩ :=
  ⟨_, .stop hnow hpending, rfl⟩

/-- A transaction that is committed and not acknowledged is one that succeeds and whose worker
stops. -/
theorem exists_unacknowledged {s u : Sys P} {label : Label P} {effect : Effect P} {t : Timestamptz}
    {rest : List (Pending P)} (hstep : Step s label u) (hu : u = effect.after t rest) :
    ∃ labels, (system P).Path s (label :: labels) ⟨effect.db, t, rest⟩ ∧
      labels.filterMap Label.trace = [] := by
  subst hu
  cases htask : effect.task with
  | none =>
    have hafter : effect.after t rest = ⟨effect.db, t, rest⟩ := by
      simp [Effect.after, htask]
    exact ⟨[], ⟨_, hstep, hafter⟩, rfl⟩
  | some task =>
    have hpending : (effect.after t rest).pending = rest ++ ⟨task, t⟩ :: [] := by
      simp [Effect.after, htask]
    have hstop := exists_stop (le_refl t) hpending
    rw [List.append_nil] at hstop
    exact ⟨_, ⟨_, hstep, hstop⟩, rfl⟩

/-- A step does not depend on how long the system has waited for it. -/
theorem Step.of_earlier {db : Db} {now now' : Timestamptz} {pending : List (Pending P)} {t : Sys P}
    {label : Label P} (h : Step ⟨db, now, pending⟩ label t) (hle : now' ≤ now) :
    Step ⟨db, now', pending⟩ label t := by
  cases h with
  | start hbegins hnow => exact .start hbegins (hle.trans hnow)
  | resume hbegins hnow hsince hpending heffect =>
    exact .resume hbegins (hle.trans hnow) hsince hpending heffect
  | stop hnow hpending => exact .stop (hle.trans hnow) hpending

/-- **A step with a failure is matched by steps without.** -/
theorem FaultyStep.matched {s s' t : Sys P} {label : Label P} (h : FaultyStep s label s')
    (hbehind : s.Behind t) :
    ∃ labels t', (system P).Path t labels t' ∧ s'.Behind t' ∧
      labels.filterMap Label.trace = label.trace.toList := by
  obtain ⟨db, now, pending⟩ := s
  obtain ⟨db', now', pending'⟩ := t
  obtain ⟨hdb, hpending, hle⟩ := hbehind
  dsimp only at hdb hpending hle
  subst hdb hpending
  cases h with
  | works hstep =>
    refine ⟨[label], s', ⟨s', hstep.of_earlier hle, rfl⟩, ⟨rfl, rfl, le_rfl⟩, ?_⟩
    rw [List.filterMap_cons]
    cases label.trace <;> rfl
  | @start begins takesEffect locked call effect hbegins hnow hfails =>
    cases hfails with
    | rolledBack | unread =>
      -- the tables see nothing
      exact ⟨[], _, rfl, ⟨rfl, (List.append_nil _).symm, hle.trans hnow⟩, rfl⟩
    | unacknowledged source hstored hok =>
      obtain ⟨labels, hpath, hquiet⟩ := exists_unacknowledged
        (@Step.start P ⟨db', now', pending'⟩ begins takesEffect locked call hbegins
          (hle.trans hnow)) rfl
      refine ⟨_, _, hpath, ⟨rfl, (List.append_nil _).symm, le_rfl⟩, ?_⟩
      rw [List.filterMap_cons, hquiet]
      simp only [Label.trace, hstored]
      rfl
  | @resume begins takesEffect before after p input normal effect hbegins hnow hsince hpending
      hnormal hfails =>
    cases hfails with
    | rolledBack | unread =>
      -- the worker stops
      exact ⟨_, _, exists_stop (hle.trans hnow) hpending, ⟨rfl, (List.append_nil _).symm, le_rfl⟩,
        rfl⟩
    | unacknowledged source hstored hok =>
      obtain ⟨labels, hpath, hquiet⟩ := exists_unacknowledged
        (@Step.resume P ⟨db', now', pending'⟩ begins takesEffect before after p input normal hbegins
          (hle.trans hnow) hsince hpending hnormal) rfl
      refine ⟨_, _, hpath, ⟨rfl, (List.append_nil _).symm, le_rfl⟩, ?_⟩
      rw [List.filterMap_cons, hquiet]
      simp only [Label.trace, hstored]
      rfl

variable (P) in
theorem faulty_simulation :
    TransitionSystem.Simulation (faulty P) (system P) Sys.Behind Label.trace Label.trace where
  init s hs := ⟨s, hs, rfl, rfl, le_rfl⟩
  step _ _ _ _ hstep hbehind := FaultyStep.matched hstep hbehind

/-- A run without failures is one in which none happens. -/
theorem faulty_path_of_path {s t : Sys P} {labels : List (Label P)}
    (h : (system P).Path s labels t) : (faulty P).Path s labels t := by
  induction labels generalizing s with
  | nil => exact h
  | cons label labels ih =>
    obtain ⟨u, hstep, hrest⟩ := h
    exact ⟨u, .works hstep, ih hrest⟩

/-- **Failures add no run.** The tables, the calls in progress, and the transactions and requests
that lead to them are those of a run without failures. -/
theorem failures_add_no_run (P : Platform) (db : Db) (pending : List (Pending P))
    (trace : List (Label P)) :
    (∃ labels s, (faulty P).Run labels s ∧ s.db = db ∧ s.pending = pending ∧
      labels.filterMap Label.trace = trace) ↔
    ∃ labels s, (system P).Run labels s ∧ s.db = db ∧ s.pending = pending ∧
      labels.filterMap Label.trace = trace := by
  constructor
  · rintro ⟨labels, s, hrun, rfl, rfl, rfl⟩
    obtain ⟨labels', t, hrun', hbehind, hshown⟩ := (faulty_simulation P).run hrun
    exact ⟨labels', t, hrun', hbehind.db, hbehind.pending, hshown⟩
  · rintro ⟨labels, s, ⟨s₀, hinit, hpath⟩, rfl, rfl, rfl⟩
    exact ⟨labels, s, ⟨s₀, hinit, faulty_path_of_path hpath⟩, rfl, rfl, rfl⟩

/-! ### What the simulation carries over -/

theorem faulty_inv {s : Sys P} (hs : (faulty P).Reachable s) : s.Inv := by
  obtain ⟨t, ht, hbehind⟩ := (faulty_simulation P).reachable hs
  have hinv := reachable_inv ht
  refine ⟨?_, ?_, ?_⟩
  · rw [← hbehind.db]
    exact hinv.sound
  · rw [← hbehind.db]
    exact hinv.authentic
  · rw [← hbehind.db, ← hbehind.pending]
    exact hinv.known

/-- What a run with failures keeps of a delivery. -/
theorem faulty_path_evolves {s t : Sys P} {labels : List (Label P)}
    (hs : (faulty P).Reachable s) (h : (faulty P).Path s labels t) : s.db.Evolves t.db := by
  obtain ⟨s', hs', hbehind⟩ := (faulty_simulation P).reachable hs
  obtain ⟨labels', t', hpath, hbehind', -⟩ := (faulty_simulation P).path h hbehind
  rw [← hbehind.db, ← hbehind'.db]
  exact path_evolves hs' hpath

/-- **Safety under failures.** Claims, requests and outcomes are as without failures, and so are the
rows and their receipts. -/
theorem safety_under_failures (P : Platform) {labels : List (Label P)} {s : Sys P}
    (hrun : (faulty P).Run labels s) (id : String) :
    (claimsOf id labels).Nodup ∧ (leavingsOf id labels).Nodup ∧
      (∀ number, (postsOf id labels).count number ≤ (claimsOf id labels).count number) ∧
      ∀ row, s.db.delivery id = some row →
        row.Sound ∧ Ledger row ((s.db.receipts id).map AttemptRow.number) ∧
        Numbered row.maxAttempts row.replayCount row.attempts (claimsOf id labels) ∧
        ∀ labels' t, (faulty P).Path s labels' t → ∃ row', t.db.delivery id = some row' ∧
          row'.content = row.content ∧ (row'.number = row.number ∨ Before row.number row'.number) ∧
          s.db.receipts id <+: t.db.receipts id ∧ (row.status = .delivered → row' = row) := by
  obtain ⟨labels', t, hrun', hbehind, hshown⟩ := (faulty_simulation P).run hrun
  rw [claimsOf_trace, leavingsOf_trace, postsOf_trace, ← hshown, ← claimsOf_trace,
    ← leavingsOf_trace, ← postsOf_trace]
  refine ⟨claimsOf_nodup hrun' id, leavingsOf_nodup hrun' id, count_postsOf_le hrun' id, ?_⟩
  intro row hrow
  have hlife := Db.life_of_delivery hrow
  have hsound := (faulty_inv hrun.reachable).sound id _ hlife
  have hnumbered := (claimsOf_numbered hrun' id).2
  rw [hbehind.db] at hnumbered
  refine ⟨hsound.row, hsound.ledger_spec, hnumbered _ hlife, ?_⟩
  intro labels'' u hpath
  obtain ⟨l', hl', hevolves⟩ := faulty_path_evolves hrun.reachable hpath id _ hlife
  obtain ⟨hrow', hreceipts⟩ := Db.life_eq_some_iff.mp hl'
  refine ⟨l'.row, hrow', hevolves.content, hevolves.progress, hreceipts ▸ hevolves.receipts, ?_⟩
  intro hdelivered
  rw [hevolves.delivered hdelivered]

/-- Every step whose transaction commits may lose its acknowledgement. -/
theorem Step.unacknowledged {s t : Sys P} {label : Label P} (h : Step s label t) {stored : Stored}
    (hstored : label.observation.stored = some stored) (hok : stored.succeeded) (source : String) :
    ∃ label' t' answer, FaultyStep s label' t' ∧ label'.action = label.action ∧
      label'.begins = label.begins ∧ label'.observation.stored = some stored ∧ t'.db = t.db ∧
      t'.now = t.now ∧ label'.observation.answer = some answer ∧
      answer.OfStoreError (.database stored.commit source) := by
  cases h with
  | start hbegins hnow =>
    exact ⟨_, _, _, .start hbegins hnow (.unacknowledged source hstored hok), rfl, rfl, rfl, rfl,
      rfl, rfl, Call.failed_ofStoreError _ _⟩
  | resume hbegins hnow hsince hpending heffect =>
    exact ⟨_, _, _, .resume hbegins hnow hsince hpending heffect
      (.unacknowledged source hstored hok), rfl, rfl, rfl, rfl, rfl, rfl,
      Task.failed_ofStoreError _ _⟩
  | stop => cases hstored

/-- The first order has been delivered, and the dispatch has failed because its last commit was not
acknowledged. -/
theorem safety_under_failures_unacknowledged :
    ∃ labels s row, (faulty reference).Run labels s ∧
      s.db.delivery firstOrder.delivery.deliveryId = some row ∧ row.status = .delivered ∧
      row.Sound ∧ Ledger row ((s.db.receipts row.deliveryId).map AttemptRow.number) ∧
      (leavingsOf firstOrder.delivery.deliveryId labels).Nodup ∧
      Numbered 2 0 1 (claimsOf firstOrder.delivery.deliveryId labels) ∧
      (∀ labels' t, (faulty reference).Path s labels' t →
        t.db.delivery firstOrder.delivery.deliveryId = some row) ∧
      ∃ label ∈ labels, ∃ answer, label.observation.answer = some answer ∧
        answer.OfStoreError (.database "commit delivery receipt" "connection reset") := by
  obtain ⟨labels, s, label, t, ⟨s₀, hinit, hpath⟩, -, hstep, -, -, hstored, hdelivered, -⟩ :=
    exists_first_delivered
  obtain ⟨label', t', answer, hstep', -, -, -, hdb, -, hanswer, herror⟩ :=
    Step.unacknowledged hstep hstored rfl "connection reset"
  have hrun : (faulty reference).Run (labels ++ [label']) t' :=
    TransitionSystem.Run.snoc ⟨s₀, hinit, faulty_path_of_path hpath⟩ hstep'
  rw [← hdb] at hdelivered
  obtain ⟨-, hleavings, -, hrow⟩ :=
    safety_under_failures reference hrun firstOrder.delivery.deliveryId
  obtain ⟨hsound, hledger, hnumbered, hkept⟩ := hrow _ hdelivered
  refine ⟨_, t', _, hrun, hdelivered, rfl, hsound, hledger, hleavings, hnumbered, ?_, label',
    List.mem_append_right _ (List.mem_singleton.mpr rfl), answer, hanswer, herror⟩
  intro labels' u hpath'
  obtain ⟨row', hrow', -, -, -, hfinal⟩ := hkept labels' u hpath'
  rw [hrow', hfinal rfl]

/-! ### Submitting an event -/

/-- The delivery is stored with all that an exact duplicate repeats. -/
def Db.Holds (db : Db) (delivery : NewDelivery) : Prop :=
  ∃ row, db.delivery delivery.deliveryId = some row ∧ row.eventId = delivery.eventId ∧
    delivery.same (decodeDelivery row)

theorem Db.Evolves.holds {db db' : Db} (h : db.Evolves db') {delivery : NewDelivery}
    (hholds : db.Holds delivery) : db'.Holds delivery := by
  obtain ⟨row, hrow, hevent, hsame⟩ := hholds
  obtain ⟨l', hl', hevolves⟩ := h _ _ (Db.life_of_delivery hrow)
  have hcontent : l'.row.content = row.content := hevolves.content
  simp only [DeliveryRow.content, Content.mk.injEq] at hcontent
  obtain ⟨-, heventId, htype, hurl, horigin, hsnapshot, hdigest, hqueue, -⟩ := hcontent
  refine ⟨l'.row, (Db.life_eq_some_iff.mp hl').1, heventId.trans hevent, ?_⟩
  simp only [NewDelivery.same, decodeDelivery] at hsame ⊢
  rw [htype, hurl, horigin, hsnapshot, hdigest, hqueue]
  exact hsame

/-- A row of the event that is the same as the delivery has its id. -/
theorem Sys.Inv.holds_of_same {s : Sys P} (hinv : s.Inv) {plugin : OutboundWebhookPlugin P}
    {request : EnqueueRequest} {delivery : NewDelivery} (hnew : Enqueued plugin request delivery)
    {row : DeliveryRow} (hrow : row ∈ s.db.deliveries) (hevent : row.eventId = delivery.eventId)
    (hsame : delivery.same (decodeDelivery row)) : s.db.Holds delivery := by
  obtain ⟨plugin', request', other, hother, hcontent⟩ :=
    hinv.authentic _ _ (Db.life_of_mem hrow)
  have hrepeats := (hnew.same_iff hother hcontent).mp hsame
  have heventId : row.eventId = other.eventId := congrArg Content.eventId hcontent
  have hid : delivery.deliveryId = row.deliveryId :=
    (hnew.deliveryId_eq hother (hevent.symm.trans heventId) hrepeats).trans
      (congrArg Content.deliveryId hcontent).symm
  exact ⟨row, hid ▸ Db.delivery_of_mem hrow, hevent, hsame⟩

theorem NewDelivery.same_toRow (delivery : NewDelivery) (begins : Timestamptz) :
    delivery.same (decodeDelivery (delivery.toRow begins)) := by
  simp [NewDelivery.same, decodeDelivery, NewDelivery.toRow]

theorem Db.holds_of_insert {db db' : Db} {delivery : NewDelivery} {begins : Timestamptz}
    (hd : db'.deliveries = db.deliveries ++ [delivery.toRow begins]) : db'.Holds delivery :=
  ⟨delivery.toRow begins, Db.delivery_of_mem (Db.mem_of_last hd), rfl, delivery.same_toRow begins⟩

/-- An enqueue that has passed the checks: it is answered what the store has returned, or a store
error after which its transaction is done as a whole or not at all. -/
theorem FaultyStep.enqueue_inv {s t : Sys P} {label : Label P} (h : FaultyStep s label t)
    {plugin : OutboundWebhookPlugin P} {caller : Option String} {now : OffsetDateTime}
    {request : EnqueueRequest} {delivery : NewDelivery}
    (haction : label.action = .start (.enqueue plugin caller now request))
    (hnew : newDelivery plugin caller now request = .ok delivery) :
    (label.observation.answer = some (.enqueue (enqueueAnswer delivery.deliveryId
        (transact (insertOrGet label.begins delivery) s.db).1)) ∧
      t.db = (transact (insertOrGet label.begins delivery) s.db).2) ∨
    ∃ operation source, label.observation.answer = some (.enqueue (.error (.error
        (.runtime (storeFailure (.database operation source)))))) ∧
      (t.db = s.db ∨ (transact (insertOrGet label.begins delivery) s.db).1.isOk ∧
        t.db = (transact (insertOrGet label.begins delivery) s.db).2) := by
  cases h with
  | works hstep =>
    cases hstep with
    | start hbegins hnow =>
      simp only [Action.start.injEq] at haction
      subst haction
      refine .inl ⟨?_, ?_⟩
      · simp only [Call.start, enqueueDelivery, hnew]
      · simp only [Call.start, enqueueDelivery, hnew]
        rfl
    | resume => cases haction
    | stop => cases haction
  | @start begins takesEffect locked call effect hbegins hnow hfails =>
    simp only [Action.start.injEq] at haction
    subst haction
    simp only [Call.start, enqueueDelivery, hnew] at hfails
    refine .inr ?_
    cases hfails with
    | rolledBack source => exact ⟨_, source, rfl, .inl rfl⟩
    | unacknowledged source hstored hok =>
      obtain rfl := Option.some.inj hstored
      exact ⟨_, source, rfl, .inr ⟨hok, rfl⟩⟩
    | unread source hreads => cases hreads
  | resume => cases haction

/-- The event is stored already: nothing is written, and the caller is told its id or of a store
error. -/
theorem FaultyStep.enqueue_of_holds {s t : Sys P} {label : Label P} (h : FaultyStep s label t)
    {plugin : OutboundWebhookPlugin P} {caller : Option String} {now : OffsetDateTime}
    {request : EnqueueRequest} {delivery : NewDelivery}
    (haction : label.action = .start (.enqueue plugin caller now request))
    (hnew : newDelivery plugin caller now request = .ok delivery) (hholds : s.db.Holds delivery) :
    t.db = s.db ∧
      ((∃ status, label.observation.answer
          = some (.enqueue (.ok ⟨delivery.deliveryId, false, status⟩))) ∨
        ∃ failure, label.observation.answer
          = some (.enqueue (.error (.error (.runtime failure))))) := by
  obtain ⟨row, hrow, hevent, hsame⟩ := hholds
  have hmax := (enqueued_of_newDelivery hnew).maxAttempts_bounds
  have hlookup : KeyedTable.lookup DeliveryRow.eventId delivery.eventId s.db.deliveries
      = some row :=
    hevent ▸ KeyedTable.lookup_of_mem s.db.deliveries_event_id_key
      (Db.delivery_eq_some_iff.mp hrow).1
  have hinsert : insertOrGet label.begins delivery s.db
      = .ok (.existing (decodeDelivery row), s.db) := by
    rw [insertOrGet_of_event hmax hlookup, if_pos hsame]
  have hresult := transact_of_eq_ok hinsert
  have hinv := h.enqueue_inv haction hnew
  rw [hresult] at hinv
  rcases hinv with ⟨hanswer, hdb⟩ | ⟨operation, source, hanswer, hdb⟩
  · exact ⟨hdb, .inl ⟨row.status, hanswer⟩⟩
  · refine ⟨?_, .inr ⟨_, hanswer⟩⟩
    rcases hdb with hdb | ⟨-, hdb⟩
    · exact hdb
    · exact hdb

/-- What an answer to an enqueue says about the tables before and after it. -/
inductive Submitted (db db' : Db) (begins : Timestamptz) (delivery : NewDelivery) :
    Except (Abort FlowError) EnqueueResponse → Prop
  /-- The event is stored, now or before. -/
  | acknowledged {created : Bool} {status : DeliveryStatus} (hholds : db'.Holds delivery)
      (hunchanged : created = false → db' = db) :
      Submitted db db' begins delivery (.ok ⟨delivery.deliveryId, created, status⟩)
  /-- The event is stored with another content. -/
  | conflict {row : DeliveryRow} (hrow : row ∈ db.deliveries)
      (hevent : row.eventId = delivery.eventId) (hdiffers : ¬delivery.same (decodeDelivery row))
      (hunchanged : db' = db) :
      Submitted db db' begins delivery (.error (.error (.domain .idempotencyConflict)))
  /-- Nothing is stored. -/
  | undone (failure : RuntimeFailure) (hunchanged : db' = db) :
      Submitted db db' begins delivery (.error (.error (.runtime failure)))
  /-- The event is stored, and the caller does not know. -/
  | unknown (failure : RuntimeFailure) (hholds : db'.Holds delivery)
      (hdeliveries : db'.deliveries = db.deliveries ++ [delivery.toRow begins])
      (hattempts : db'.attempts = db.attempts) :
      Submitted db db' begins delivery (.error (.error (.runtime failure)))

theorem FaultyStep.submitted {s t : Sys P} {label : Label P} (h : FaultyStep s label t)
    (hinv : s.Inv) {plugin : OutboundWebhookPlugin P} {caller : Option String}
    {now : OffsetDateTime} {request : EnqueueRequest} {delivery : NewDelivery}
    (haction : label.action = .start (.enqueue plugin caller now request))
    (hnew : newDelivery plugin caller now request = .ok delivery) :
    ∃ answer, label.observation.answer = some (.enqueue answer) ∧
      Submitted s.db t.db label.begins delivery answer := by
  have henqueued := enqueued_of_newDelivery hnew
  rcases h.enqueue_inv haction hnew with ⟨hanswer, hdb⟩ | ⟨operation, source, hanswer, hdb⟩
  · refine ⟨_, hanswer, ?_⟩
    rcases transact_insertOrGet henqueued label.begins with
      ⟨row, hrow, hevent, hresult⟩ | ⟨db', hresult, -, hd, -⟩ | hresult
    · rw [hresult] at hdb ⊢
      by_cases hsame : delivery.same (decodeDelivery row)
      · rw [if_pos hsame]
        exact .acknowledged (hdb ▸ hinv.holds_of_same henqueued hrow hevent hsame) fun _ => hdb
      · rw [if_neg hsame]
        exact .conflict hrow hevent hsame hdb
    · rw [hresult] at hdb ⊢
      exact .acknowledged (hdb ▸ Db.holds_of_insert hd) nofun
    · rw [hresult] at hdb ⊢
      exact .undone _ hdb
  · refine ⟨_, hanswer, ?_⟩
    rcases hdb with hdb | ⟨hok, hdb⟩
    · exact .undone _ hdb
    · rcases transact_insertOrGet henqueued label.begins with
        ⟨row, hrow, hevent, hresult⟩ | ⟨db', hresult, -, hd, ha⟩ | hresult
      · rw [hresult] at hdb
        exact .undone _ hdb
      · rw [hresult] at hdb
        subst hdb
        exact .unknown _ (Db.holds_of_insert hd) hd ha
      · rw [hresult] at hok
        cases hok

/-- The same request at another time. -/
theorem newDelivery_again {plugin : OutboundWebhookPlugin P} {caller caller' : Option String}
    {now : OffsetDateTime} {request : EnqueueRequest} {delivery : NewDelivery}
    (h : newDelivery plugin caller now request = .ok delivery) (now' : OffsetDateTime)
    (hallowed : plugin.config.producerAllowed caller') :
    newDelivery plugin caller' now' request
      = .ok { delivery with availableAt := databaseTimestampNow now' } := by
  unfold newDelivery at h ⊢
  rw [hallowed]
  split at h
  · cases h
  split at h
  · cases h
  rename_i hnames
  rw [if_neg hnames]
  split at h
  · cases h
  rename_i prepared hprepared
  dsimp only at h ⊢
  split at h
  · cases h
  rename_i hsize
  rw [if_neg hsize, ← Except.ok.inj h]
  rfl

/-- **Submitting an event over a database that fails.** An acknowledged event is stored for good.
After a runtime failure it is stored or nothing has changed, and the same request is then safe to
repeat: once the event is stored, a repetition writes nothing and returns the same id. -/
theorem submission_under_failures (P : Platform) {s t : Sys P} {label : Label P}
    (hs : (faulty P).Reachable s) (hstep : (faulty P).step s label t)
    {plugin : OutboundWebhookPlugin P} {caller : Option String} {now : OffsetDateTime}
    {request : EnqueueRequest} {delivery : NewDelivery}
    (haction : label.action = .start (.enqueue plugin caller now request))
    (hnew : newDelivery plugin caller now request = .ok delivery) :
    (∃ answer, label.observation.answer = some (.enqueue answer) ∧
      Submitted s.db t.db label.begins delivery answer) ∧
    (t.db.Holds delivery → ∀ labels u, (faulty P).Path t labels u →
      u.db.Holds delivery ∧
      (u.db.deliveries.filter fun row => row.eventId = delivery.eventId).length = 1 ∧
      ∀ caller' now' label' v, (faulty P).step u label' v →
        label'.action = .start (.enqueue plugin caller' now' request) →
        plugin.config.producerAllowed caller' →
        v.db = u.db ∧
          ((∃ status, label'.observation.answer
              = some (.enqueue (.ok ⟨delivery.deliveryId, false, status⟩))) ∨
            ∃ failure, label'.observation.answer
              = some (.enqueue (.error (.error (.runtime failure)))))) := by
  refine ⟨FaultyStep.submitted hstep (faulty_inv hs) haction hnew, ?_⟩
  intro hholds labels u hpath
  have hholds' : u.db.Holds delivery :=
    (faulty_path_evolves (hs.step hstep) hpath).holds hholds
  refine ⟨hholds', ?_, ?_⟩
  · obtain ⟨row, hrow, hevent, -⟩ := hholds'
    rw [← hevent, KeyedTable.filter_key_of_mem u.db.deliveries_event_id_key
      (Db.delivery_eq_some_iff.mp hrow).1]
    rfl
  · intro caller' now' label' v hstep' haction' hallowed'
    have hagain : u.db.Holds { delivery with availableAt := databaseTimestampNow now' } := hholds'
    have hrepeated := FaultyStep.enqueue_of_holds hstep' haction'
      (newDelivery_again hnew now' hallowed') hagain
    exact hrepeated

/-- The first order, whose acknowledgement is lost, is enqueued again. -/
theorem submission_under_failures_unacknowledged :
    ∃ label s label' t failure status, (faulty reference).step ⟨Db.empty, 0, []⟩ label s ∧
      (faulty reference).step s label' t ∧
      label.observation.answer = some (.enqueue (.error (.error (.runtime failure)))) ∧
      Submitted Db.empty s.db 0 firstOrder.delivery (.error (.error (.runtime failure))) ∧
      label'.observation.answer
        = some (.enqueue (.ok ⟨firstOrder.delivery.deliveryId, false, status⟩)) ∧
      t.db = s.db ∧ s.db.deliveries = [firstOrder.delivery.toRow 0] := by
  obtain ⟨s₁, hstep₁, hd, -, -, hn⟩ := @exists_enqueue reference ⟨Db.empty, 0, []⟩ 0 _ _ _ _ _
    firstOrder.accepted List.not_mem_nil List.not_mem_nil (le_refl 0)
  obtain ⟨label, s, answer, hstep, haction, hbegins, -, hdb, hnow, hanswer, herror⟩ :=
    Step.unacknowledged hstep₁ rfl rfl "connection reset"
  rw [← hdb] at hd
  have hs : (faulty reference).Reachable ⟨Db.empty, 0, []⟩ := ⟨[], _, ⟨rfl, rfl⟩, rfl⟩
  obtain ⟨⟨result, hresult, hsubmitted⟩, hagain⟩ :=
    submission_under_failures reference hs hstep haction firstOrder.accepted
  obtain rfl := Option.some.inj (hanswer.symm.trans hresult)
  cases herror
  obtain ⟨t, hsecond, -⟩ := @exists_enqueue_again reference s 1 _ _ _ _ _ firstOrder.accepted _
    (Db.mem_of_singleton hd) rfl (by rw [hnow, hn]; decide)
  rw [if_pos (firstOrder.delivery.same_toRow 0)] at hsecond
  have hholds : s.db.Holds firstOrder.delivery := @Db.holds_of_insert Db.empty s.db _ _ hd
  obtain ⟨-, -, hretry⟩ := hagain hholds [] s rfl
  obtain ⟨hunchanged, hretried⟩ := hretry _ _ _ t (.works hsecond) rfl rfl
  rw [hbegins] at hsubmitted
  rcases hretried with ⟨status, hretried⟩ | ⟨failure, hretried⟩
  · exact ⟨label, s, _, t, _, status, hstep, .works hsecond, hanswer, hsubmitted, hretried,
      hunchanged, hd⟩
  · cases hretried

end OutboundWebhook
