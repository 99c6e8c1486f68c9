import OutboundWebhook.History
import OutboundWebhook.Inspection

/-!
# Replays

A replay reads the row with one statement and updates it with another. Between the two any number
of other replays, claims and outcomes may commit. What decides is the condition of the update: it
is checked against the row that is current when the update takes effect, so two replays never open
the same cycle.

## Main results

* `repliesOf_eq` — the replays of a delivery return `1, 2, 3, …`
* `replay_begun` — every replay in progress was called in the run
* `Step.opensCycle`, `Step.db_eq_of_replay` — what a replay does when it succeeds and when not
* `not_dead_letter_reason` — what `not_dead_letter` can mean
-/

namespace OutboundWebhook

variable {P : Platform}

/-- What a replay of the delivery has returned. -/
def Label.repliedOf (id : String) (label : Label P) : Option ReplayResponse :=
  match label.action, label.observation.answer with
  | .resume (.replayable deliveryId) _, some (.replay (.ok response)) =>
    if deliveryId = id then some response else none
  | _, _ => none

/-- The replay counts returned for a delivery, in the order the replays took effect. -/
def repliesOf (id : String) (labels : List (Label P)) : List ℤ :=
  labels.filterMap fun label => (label.repliedOf id).map ReplayResponse.replayCount

theorem repliesOf_snoc (id : String) (labels : List (Label P)) (label : Label P) :
    repliesOf id (labels ++ [label])
      = repliesOf id labels ++ ((label.repliedOf id).map ReplayResponse.replayCount).toList := by
  rw [repliesOf, List.filterMap_append, ← repliesOf]
  cases h : label.repliedOf id <;> simp [h]

/-! ### The replays of a delivery are numbered -/

theorem Call.FirstStretch.replayOf_eq_none {call : Call P} {begins : Timestamptz}
    {locked : List String} {db : Db} {effect : Effect P}
    (h : call.FirstStretch begins locked db effect) (id : String) :
    effect.observation.replayOf id = none := by
  cases h <;> rfl

/-- A replay returns the count of the row it has stored. -/
theorem Step.repliedOf_eq {s t : Sys P} {label : Label P} (h : Step s label t) (id : String) :
    (label.repliedOf id).map ReplayResponse.replayCount
      = (label.observation.replayOf id).map DeliveryRecord.replayCount := by
  cases h with
  | @start begins takesEffect locked call hbegins hnow =>
    rw [(call.firstStretch begins locked s.db).replayOf_eq_none id]
    rfl
  | @resume begins takesEffect before after p input effect hbegins hnow hsince hpending heffect =>
    have hnext := Task.nextStretch begins s.db heffect
    obtain ⟨task, since⟩ := p
    cases hnext with
    | @replayed deliveryId =>
      simp only [Label.repliedOf, replayStored, replayAnswer, Observation.replayOf,
        Option.bind_some]
      cases (transact (beginReplay begins deliveryId) s.db).1 with
      | error error => rfl
      | ok stored =>
        cases stored with
        | none => rfl
        | some delivery => by_cases hid : deliveryId = id <;> simp [Stored.replayOf, hid]
    | _ => rfl
  | stop => rfl

theorem Writes.replayOf_eq_none {s : Sys P} {begins : Timestamptz} {stored : Option Stored}
    {db' : Db} (h : Writes s begins stored db') {id : String} (hnone : s.db.life id = none) :
    stored.bind (Stored.replayOf id) = none := by
  cases h with
  | replay deliveryId =>
    obtain ⟨db', hok, -⟩ := beginReplay_eq_ok begins deliveryId s.db
    rw [transact_of_eq_ok hok, Option.bind_some]
    by_cases hid : deliveryId = id
    · rw [hid, Db.life_eq_none_iff.mp hnone]
      rfl
    · cases (Option.map _ _ : Option DeliveryRecord) with
      | none => rfl
      | some delivery => exact if_neg hid
  | _ => rfl

/-- **A replay opens the next cycle of a dead-lettered delivery.** Nothing else counts. -/
theorem Observed.replay_or {begins : Timestamptz} {id : String} {stored : Option Stored}
    {l l' : Life} (h : Observed begins id stored l l') :
    (stored.bind (Stored.replayOf id) = none ∧ l'.row.replayCount = l.row.replayCount) ∨
    (stored.bind (Stored.replayOf id)
        = some (decodeDelivery (l.row.assign (replayAssignment begins l.row))) ∧
      l.row.isReplayable id ∧
      l' = ⟨l.row.assign (replayAssignment begins l.row), l.receipts⟩) := by
  cases h with
  | still hclaim houtcome hreplay => exact .inl ⟨hreplay, rfl⟩
  | replayed hreplayable => exact .inr ⟨Stored.replayOf_of_eq rfl, hreplayable, rfl⟩
  | _ => exact .inl ⟨rfl, rfl⟩

/-- The first `n` replay counts. -/
def firstReplays (n : ℕ) : List ℤ := (List.range n).map fun i : ℕ => (i : ℤ) + 1

theorem firstReplays_succ (n : ℕ) : firstReplays (n + 1) = firstReplays n ++ [(n : ℤ) + 1] := by
  rw [firstReplays, List.range_succ, List.map_append]
  rfl

/-- The replay counts returned for a delivery, against its row. -/
def RepliesNumbered (id : String) (labels : List (Label P)) (db : Db) : Prop :=
  (db.life id = none → repliesOf id labels = []) ∧
    ∀ l, db.life id = some l → ∃ n : ℕ, l.row.replayCount = n ∧ repliesOf id labels = firstReplays n

theorem RepliesNumbered.step {id : String} {labels : List (Label P)} {label : Label P}
    {s t : Sys P} (hinv : s.Inv) (h : RepliesNumbered id labels s.db) (hstep : Step s label t) :
    RepliesNumbered id (labels ++ [label]) t.db := by
  have hrefines := hstep.writes.refines hinv
  rw [RepliesNumbered, repliesOf_snoc, hstep.repliedOf_eq, Observation.replayOf]
  cases hl : s.db.life id with
  | none =>
    rw [hstep.writes.replayOf_eq_none hl, h.1 hl]
    refine ⟨fun _ => rfl, fun l' hl' => ⟨0, ?_, rfl⟩⟩
    obtain ⟨plugin, request, delivery, begins, -, rfl⟩ := hrefines.born id l' hl hl'
    rfl
  | some l =>
    obtain ⟨l', hl', hobserved⟩ := hrefines.moves id l hl
    refine ⟨fun hnone => absurd hl' (by simp [hnone]), ?_⟩
    intro l'' hl''
    rw [hl', Option.some.injEq] at hl''
    subst hl''
    obtain ⟨n, hcount, hreplies⟩ := h.2 l hl
    rcases hobserved.replay_or with ⟨hreplay, hsame⟩ | ⟨hreplay, -, rfl⟩
    · rw [hreplay, hsame, Option.map_none, Option.toList_none, List.append_nil]
      exact ⟨n, hcount, hreplies⟩
    · refine ⟨n + 1, ?_, ?_⟩
      · show l.row.replayCount + 1 = (n + 1 : ℕ)
        omega
      · rw [hreplay, Option.map_some, Option.toList_some, hreplies, firstReplays_succ, ← hcount]
        rfl

/-- **The replays of a delivery return `1, 2, 3, …`**, and its row counts them. -/
theorem repliesOf_eq {labels : List (Label P)} {t : Sys P} (hrun : (system P).Run labels t)
    (id : String) : RepliesNumbered id labels t.db := by
  refine hrun.induction (P := fun labels t => RepliesNumbered id labels t.db) ?_
    fun labels s label t hs h hstep => h.step (reachable_inv hs.reachable) hstep
  intro s hinit
  exact ⟨fun _ => rfl, fun l hl => by simp [life_of_init hinit] at hl⟩

/-! ### Replays in progress -/

/-- The delivery a replay in progress is of. -/
def Task.replays : Task P → Option String
  | .replaying delivery => some delivery.deliveryId
  | .replayable deliveryId => some deliveryId
  | _ => none

/-- The replay in progress was called in `s` for the delivery, which was there. If it has only read
the row yet, this is what it read. -/
def Pending.BegunBy (p : Pending P) (id : String) (s : Sys P) (first : Label P) : Prop :=
  (∃ plugin caller, first.action = .start (.replay plugin caller id)) ∧
    ∃ row, s.db.delivery id = some row ∧ ∀ delivery, p.task = .replaying delivery →
      p.since = first.takesEffect ∧ delivery = decodeDelivery row

theorem Call.FirstStretch.replays_inv {call : Call P} {begins : Timestamptz}
    {locked : List String} {db : Db} {effect : Effect P}
    (h : call.FirstStretch begins locked db effect) {task : Task P}
    (htask : effect.task = some task) {id : String} (hreplays : task.replays = some id) :
    (∃ plugin caller, call = .replay plugin caller id) ∧
      ∃ delivery, task = .replaying delivery ∧ loadDelivery db id = some delivery := by
  cases h with
  | @claimed plugin caller prepared result db' hclaim =>
    obtain ⟨claimed, -, rfl⟩ := claimAnswer_task htask
    cases hreplays
  | inspecting =>
    obtain rfl := Option.some.inj htask
    cases hreplays
  | @replaying plugin caller deliveryId delivery hload =>
    obtain rfl := Option.some.inj htask
    obtain rfl := Option.some.inj hreplays
    have hid := loadDelivery_deliveryId hload
    exact ⟨⟨plugin, caller, by rw [hid]⟩, delivery, rfl, hid ▸ hload⟩
  | _ => cases htask

theorem Task.NextStretch.replays_inv {task task' : Task P} {input : Input}
    {begins : Timestamptz} {db : Db} {effect : Effect P}
    (h : task.NextStretch begins db input effect) (htask : effect.task = some task') {id : String}
    (hreplays : task'.replays = some id) :
    task.replays = some id ∧ ∀ delivery, task' ≠ .replaying delivery := by
  cases h with
  | posted =>
    obtain rfl := Option.some.inj htask
    cases hreplays
  | replayable =>
    obtain rfl := Option.some.inj htask
    exact ⟨hreplays, fun delivery hsame => by cases hsame⟩
  | _ => cases htask

/-- **Every replay in progress was called in the run.** -/
theorem replay_begun {labels : List (Label P)} {t : Sys P} (hrun : (system P).Run labels t)
    {p : Pending P} (hp : p ∈ t.pending) {id : String} (hreplays : p.task.replays = some id) :
    (system P).Once labels t (p.BegunBy id) := by
  refine once_of_pending (Q := fun p => p.task.replays = some id)
    (R := fun p s first => p.BegunBy id s first) ?_ ?_ hrun hp hreplays
  · intro s label call locked effect p haction hfirst htask hsince hreplays
    obtain ⟨⟨plugin, caller, rfl⟩, read, htask', hload⟩ := hfirst.replays_inv htask hreplays
    obtain ⟨row, hrow, hrecord⟩ := Option.map_eq_some_iff.mp hload
    refine ⟨⟨plugin, caller, haction⟩, row, hrow, ?_⟩
    intro delivery hdelivery
    rw [htask', Task.replaying.injEq] at hdelivery
    exact ⟨hsince, hdelivery ▸ hrecord.symm⟩
  · intro q p input begins db effect hnext htask hreplays
    obtain ⟨hbefore, hnot⟩ := hnext.replays_inv htask hreplays
    refine ⟨hbefore, ?_⟩
    rintro s first ⟨hcall, row, hrow, -⟩
    exact ⟨hcall, row, hrow, fun delivery hdelivery => absurd hdelivery (hnot delivery)⟩

/-- The delivery of a replay in progress is still there. -/
theorem exists_row_of_begun {labels : List (Label P)} {t : Sys P} {p : Pending P} {id : String}
    (h : (system P).Once labels t (p.BegunBy id)) : ∃ row, t.db.delivery id = some row := by
  obtain ⟨before, first, after, s, s', -, hrun, hfirst, hpath, -, row, hrow, -⟩ := h
  obtain ⟨l, hl, -⟩ := path_evolves hrun.reachable
    (TransitionSystem.path_cons.mpr ⟨s', hfirst, hpath⟩) id _ (Db.life_of_delivery hrow)
  exact ⟨l.row, (Db.life_eq_some_iff.mp hl).1⟩

/-! ### How a replay ends -/

/-- A replay that ends where it begins has changed nothing. -/
theorem replayDelivery_answer {plugin : OutboundWebhookPlugin P} {caller : Option String}
    {id : String} {db : Db} {answer : Answer}
    (h : (replayDelivery plugin caller id db).observation.answer = some answer) :
    (replayDelivery plugin caller id db).db = db ∧
      ∃ error, answer = .replay (.error (.error error)) ∧ error ≠ .replay .notDeadLetter ∧
        (error = .replay .notFound → db.delivery id = none) := by
  have hchecked : ∀ error : AdminFlowError, adminRequest plugin caller id (.replay .forbidden)
      (.replay .invalidDelivery) .runtime = .error error →
      error ≠ .replay .notDeadLetter ∧ error ≠ .replay .notFound := by
    intro error herror
    unfold adminRequest at herror
    split at herror
    · obtain rfl := Except.error.inj herror
      exact ⟨by simp, by simp⟩
    split at herror
    · obtain rfl := Except.error.inj herror
      exact ⟨by simp, by simp⟩
    split at herror
    · obtain rfl := Except.error.inj herror
      exact ⟨by simp, by simp⟩
    · cases herror
  unfold replayDelivery at h ⊢
  split at h
  · rename_i error herror
    obtain ⟨hdead, hfound⟩ := hchecked error herror
    obtain rfl := Option.some.inj h
    exact ⟨rfl, error, rfl, hdead, fun hnot => absurd hnot hfound⟩
  · split at h
    · rename_i hload
      obtain rfl := Option.some.inj h
      exact ⟨rfl, _, rfl, by simp, fun _ => Option.map_eq_none_iff.mp hload⟩
    · cases h

/-- The three places where a replay ends. -/
inductive EndsReplay (s : Sys P) (label : Label P) (db' : Db) :
    Except (Abort AdminFlowError) ReplayResponse → Prop
  | refused {plugin : OutboundWebhookPlugin P} {caller : Option String} {id : String}
      {error : AdminFlowError} (haction : label.action = .start (.replay plugin caller id))
      (hdb : db' = s.db) (hdead : error ≠ .replay .notDeadLetter)
      (hfound : error = .replay .notFound → s.db.delivery id = none) :
      EndsReplay s label db' (.error (.error error))
  | notDeadLetter {p : Pending P} {delivery : DeliveryRecord} (hp : p ∈ s.pending)
      (htask : p.task = .replaying delivery) (haction : label.action = .resume p.task .turn)
      (hdb : db' = s.db) (hstatus : delivery.status ≠ .deadLetter) :
      EndsReplay s label db' (.error (.error (.replay .notDeadLetter)))
  | stored {p : Pending P} {id : String} (hp : p ∈ s.pending) (htask : p.task = .replayable id)
      (haction : label.action = .resume p.task .turn)
      (hdb : db' = (transact (beginReplay label.begins id) s.db).2) :
      EndsReplay s label db' (replayAnswer (transact (beginReplay label.begins id) s.db).1)

theorem Call.FirstStretch.replay_of_answer {call : Call P} {begins : Timestamptz}
    {locked : List String} {db : Db} {effect : Effect P}
    (h : call.FirstStretch begins locked db effect)
    {answer : Except (Abort AdminFlowError) ReplayResponse}
    (hanswer : effect.observation.answer = some (.replay answer)) :
    ∃ plugin caller id, call = .replay plugin caller id := by
  cases h with
  | @claimed plugin caller prepared result db' hclaim =>
    obtain ⟨response, hdispatch⟩ := claimAnswer_answer hanswer
    cases hdispatch
  | replayRefused => exact ⟨_, _, _, rfl⟩
  | _ => cases hanswer

theorem Step.endsReplay {s t : Sys P} {label : Label P} (h : Step s label t)
    {answer : Except (Abort AdminFlowError) ReplayResponse}
    (hanswer : label.observation.answer = some (.replay answer)) :
    EndsReplay s label t.db answer := by
  cases h with
  | @start begins takesEffect locked call hbegins hnow =>
    obtain ⟨plugin, caller, id, rfl⟩ :=
      (call.firstStretch begins locked s.db).replay_of_answer hanswer
    obtain ⟨hdb, error, heq, hdead, hfound⟩ := replayDelivery_answer hanswer
    obtain rfl := Answer.replay.inj heq
    exact .refused rfl hdb hdead hfound
  | @resume begins takesEffect before after p input effect hbegins hnow hsince hpending heffect =>
    have hp := Sys.mem_of_split hpending
    have hnext := Task.nextStretch begins s.db heffect
    obtain ⟨task, since⟩ := p
    cases hnext with
    | @notDeadLetter delivery =>
      obtain rfl := Answer.replay.inj (Option.some.inj hanswer)
      refine .notDeadLetter hp rfl rfl rfl ?_
      intro hstatus
      rw [Task.resume, Option.some.injEq, replayReceipt, if_neg (not_not.mpr hstatus)] at heffect
      cases heffect
    | @replayed id =>
      obtain rfl := Answer.replay.inj (Option.some.inj hanswer)
      exact .stored hp rfl rfl rfl
    | _ => cases hanswer
  | stop => cases hanswer

/-! ### What a replay does -/

theorem Observation.replayOf_eq_some {o : Observation} {id : String} {delivery : DeliveryRecord}
    (h : o.replayOf id = some delivery) : o.stored = some (.replay id (.ok (some delivery))) := by
  obtain ⟨stored, hstored, hreplay⟩ := Option.bind_eq_some_iff.mp h
  rw [hstored]
  unfold Stored.replayOf at hreplay
  split at hreplay
  · split at hreplay
    · rename_i hid
      rw [hid, hreplay]
    · cases hreplay
  · cases hreplay

/-- A replay takes the delivery out of a dead-lettered cycle and opens the next one. -/
structure OpensCycle (id : String) (db db' : Db) (response : ReplayResponse) : Prop where
  row : ∃ row row', db.delivery id = some row ∧ db'.delivery id = some row' ∧
    row.status = .deadLetter ∧ row'.status = .queued ∧ row'.attempts = 0 ∧
    row'.leaseExpiresAt = none ∧ row'.replayCount = row.replayCount + 1 ∧
    response.replayCount = row'.replayCount ∧ row'.content = row.content
  attempts : db'.attempts = db.attempts
  others : ∀ other ≠ id, db'.delivery other = db.delivery other

/-- **A replay that succeeds opens the next cycle** and touches nothing else. -/
theorem Step.opensCycle {s t : Sys P} {label : Label P} (h : Step s label t) {id : String}
    {response : ReplayResponse} (hreplied : label.repliedOf id = some response) :
    OpensCycle id s.db t.db response := by
  have hreplay := h.repliedOf_eq id
  rw [hreplied, Option.map_some] at hreplay
  obtain ⟨record, hrecord, hcount⟩ := Option.map_eq_some_iff.mp hreplay.symm
  have hwrites := h.writes
  rw [Observation.replayOf_eq_some hrecord] at hwrites
  obtain ⟨db', hok, hd, ha⟩ := beginReplay_eq_ok label.begins id s.db
  have hrun := hwrites.replay_inv
  rw [transact_of_eq_ok hok, Prod.mk.injEq, Except.ok.injEq] at hrun
  obtain ⟨hstored, rfl⟩ := hrun
  obtain ⟨row, hrow, rfl⟩ := Option.map_eq_some_iff.mp hstored
  obtain ⟨hrow, hreplayable⟩ := Option.filter_eq_some_iff.mp hrow
  have hafter : ∀ other, t.db.delivery other = (s.db.delivery other).map
      (DeliveryRow.updated (DeliveryRow.isReplayable id) (replayAssignment label.begins)) :=
    Db.delivery_of_map hd (DeliveryRow.updated_deliveryId _ _)
  refine ⟨⟨row, row.assign (replayAssignment label.begins row), hrow, ?_,
    (DeliveryRow.isReplayable_iff.mp hreplayable).2.1, rfl, rfl, rfl, rfl, hcount.symm, rfl⟩,
    ha, ?_⟩
  · rw [hafter, hrow, Option.map_some, DeliveryRow.updated, if_pos hreplayable]
  · intro other hother
    rw [hafter]
    cases hrow' : s.db.delivery other with
    | none => rfl
    | some row' =>
      have hnot : ¬row'.isReplayable id := by
        intro hreplayable'
        exact hother ((Db.delivery_eq_some_iff.mp hrow').2.symm.trans
          (DeliveryRow.isReplayable_iff.mp hreplayable').1)
      rw [Option.map_some, DeliveryRow.updated, if_neg hnot]

/-- **Between two replays of a delivery its cycle has moved on.** -/
theorem OpensCycle.cycle_lt {id : String} {response response' : ReplayResponse} {s t u v : Sys P}
    {labels : List (Label P)} (h : OpensCycle id s.db t.db response)
    (ht : (system P).Reachable t) (hpath : (system P).Path t labels u)
    (h' : OpensCycle id u.db v.db response') : response.replayCount < response'.replayCount := by
  obtain ⟨-, row, -, hrow, -, -, -, -, -, hresponse, -⟩ := h.row
  obtain ⟨later, row', hlater, -, -, -, -, -, hnext, hresponse', -⟩ := h'.row
  obtain ⟨l, hl, hevolves⟩ := path_evolves ht hpath id _ (Db.life_of_delivery hrow)
  have hsame : later = l.row := by
    rw [(Db.life_eq_some_iff.mp hl).1, Option.some.injEq] at hlater
    exact hlater.symm
  have hle : row.replayCount ≤ later.replayCount := by
    rw [hsame]
    rcases hevolves.progress with heq | hlt | ⟨heq, -⟩
    · exact le_of_eq (congrArg Prod.fst heq).symm
    · exact le_of_lt hlt
    · exact le_of_eq heq
  omega

/-- The step is a stretch of a replay. -/
def Action.OfReplay : Action P → Prop
  | .start (.replay _ _ _) => True
  | .resume task _ => task.replays.isSome
  | _ => False

/-- **A replay changes nothing unless it succeeds.** -/
theorem Step.db_eq_of_replay {s t : Sys P} {label : Label P} (h : Step s label t)
    (haction : label.action.OfReplay)
    (hanswer : ∀ response, label.observation.answer ≠ some (.replay (.ok response))) :
    t.db = s.db := by
  cases h with
  | @start begins takesEffect locked call hbegins hnow =>
    have hfirst := call.firstStretch begins locked s.db
    show (call.start begins locked s.db).db = s.db
    generalize call.start begins locked s.db = effect at hfirst
    cases hfirst with
    | replayRefused => rfl
    | replaying => rfl
    | _ => cases haction
  | @resume begins takesEffect before after p input effect hbegins hnow hsince hpending heffect =>
    have hnext := Task.nextStretch begins s.db heffect
    show effect.db = s.db
    obtain ⟨task, since⟩ := p
    cases hnext with
    | notDeadLetter => rfl
    | replayable => rfl
    | @replayed id =>
      cases hfilter : (s.db.delivery id).filter (DeliveryRow.isReplayable id) with
      | none =>
        exact congrArg Prod.snd (transact_of_eq_ok (beginReplay_of_not_replayable begins hfilter))
      | some row =>
        obtain ⟨db', hok, -⟩ := beginReplay_eq_ok begins id s.db
        rw [hfilter] at hok
        refine absurd ?_ (hanswer ⟨row.replayCount + 1⟩)
        show some (Answer.replay (replayAnswer (transact (beginReplay begins id) s.db).1)) = _
        rw [transact_of_eq_ok hok]
        rfl
    | _ => cases haction
  | stop => cases haction

/-- A replay that ends without success changes nothing. -/
theorem EndsReplay.db_eq {s t : Sys P} {label : Label P} (hstep : Step s label t)
    {error : Abort AdminFlowError} (h : EndsReplay s label t.db (.error error))
    (hanswer : label.observation.answer = some (.replay (.error error))) : t.db = s.db := by
  refine hstep.db_eq_of_replay ?_ ?_
  · generalize hended : (Except.error error : Except (Abort AdminFlowError) ReplayResponse) = ended
      at h
    cases h with
    | refused haction =>
      rw [haction]
      trivial
    | notDeadLetter hp htask haction =>
      rw [haction, Action.OfReplay, htask]
      rfl
    | stored hp htask haction =>
      rw [haction, Action.OfReplay, htask]
      rfl
  · intro response hok
    rw [hanswer] at hok
    cases hok

/-- `not_found` is the answer to a call whose delivery is not there. -/
theorem EndsReplay.not_found {s : Sys P} {label : Label P} {db' : Db}
    (h : EndsReplay s label db' (.error (.error (.replay .notFound)))) :
    ∃ plugin caller id, label.action = .start (.replay plugin caller id) ∧
      s.db.delivery id = none := by
  generalize hended : (Except.error (Abort.error (AdminFlowError.replay ReplayError.notFound)) :
    Except (Abort AdminFlowError) ReplayResponse) = ended at h
  cases h with
  | @refused plugin caller id error haction hdb hdead hfound =>
    obtain rfl := Abort.error.inj (Except.error.inj hended)
    exact ⟨plugin, caller, id, haction, hfound rfl⟩
  | notDeadLetter => cases hended
  | @stored p id hp htask haction hdb =>
    obtain ⟨db', hok, -⟩ := beginReplay_eq_ok label.begins id s.db
    rw [transact_of_eq_ok hok] at hended
    cases hfilter : (s.db.delivery id).filter (DeliveryRow.isReplayable id) <;>
      rw [hfilter] at hended <;> cases hended

/-- The two places where a replay answers `not_dead_letter`. -/
theorem EndsReplay.not_dead_letter {s : Sys P} {label : Label P} {db' : Db}
    (h : EndsReplay s label db' (.error (.error (.replay .notDeadLetter)))) :
    ∃ p ∈ s.pending, label.action = .resume p.task .turn ∧
      ((∃ delivery, p.task = .replaying delivery ∧ delivery.status ≠ .deadLetter) ∨
        ∃ id, p.task = .replayable id ∧
          (s.db.delivery id).filter (DeliveryRow.isReplayable id) = none) := by
  generalize hended : (Except.error (Abort.error (AdminFlowError.replay
    ReplayError.notDeadLetter)) : Except (Abort AdminFlowError) ReplayResponse) = ended at h
  cases h with
  | @refused plugin caller id error haction hdb hdead hfound =>
    obtain rfl := Abort.error.inj (Except.error.inj hended)
    exact absurd rfl hdead
  | @notDeadLetter p delivery hp htask haction hdb hstatus =>
    exact ⟨p, hp, haction, .inl ⟨delivery, htask, hstatus⟩⟩
  | @stored p id hp htask haction hdb =>
    refine ⟨p, hp, haction, .inr ⟨id, htask, ?_⟩⟩
    obtain ⟨db', hok, -⟩ := beginReplay_eq_ok label.begins id s.db
    rw [transact_of_eq_ok hok] at hended
    cases hfilter : (s.db.delivery id).filter (DeliveryRow.isReplayable id) with
    | none => rfl
    | some row =>
      rw [hfilter] at hended
      cases hended

/-- A success is counted for the delivery the replay was called for. -/
theorem repliedOf_of_ok {labels : List (Label P)} {s t : Sys P} (hrun : (system P).Run labels s)
    {label : Label P} (hstep : Step s label t) {response : ReplayResponse}
    (hanswer : label.observation.answer = some (.replay (.ok response))) :
    ∃ id, label.repliedOf id = some response ∧ (system P).Once labels s fun _ first =>
      ∃ plugin caller, first.action = .start (.replay plugin caller id) := by
  have hends := hstep.endsReplay hanswer
  generalize hended : (Except.ok response : Except (Abort AdminFlowError) ReplayResponse) = ended
    at hends
  cases hends with
  | refused => cases hended
  | notDeadLetter => cases hended
  | @stored p id hp htask haction hdb =>
    have hreplays : p.task.replays = some id := by
      rw [htask]
      rfl
    refine ⟨id, ?_, (replay_begun hrun hp hreplays).imp fun _ _ hbegun => hbegun.1⟩
    rw [Label.repliedOf, haction, htask, hanswer]
    exact if_pos rfl

/-- **`not_dead_letter` has one of three reasons.** -/
theorem not_dead_letter_reason {labels : List (Label P)} {s : Sys P}
    (hrun : (system P).Run labels s) {label : Label P} {db' : Db}
    (h : EndsReplay s label db' (.error (.error (.replay .notDeadLetter)))) :
    ∃ p ∈ s.pending, ∃ id, label.action = .resume p.task .turn ∧ p.task.replays = some id ∧
      (system P).Once labels s fun s₁ first =>
        (∃ plugin caller, first.action = .start (.replay plugin caller id)) ∧
        ((p.since = first.takesEffect ∧ ∃ row, s₁.db.delivery id = some row ∧
            row.status ≠ .deadLetter) ∨
          ∃ row, s.db.delivery id = some row ∧
            (row.status ≠ .deadLetter ∨ row.replayCount = 1000000)) := by
  obtain ⟨p, hp, haction, ⟨delivery, htask, hstatus⟩ | ⟨id, htask, hrefused⟩⟩ := h.not_dead_letter
  · have hreplays : p.task.replays = some delivery.deliveryId := by
      rw [htask]
      rfl
    refine ⟨p, hp, delivery.deliveryId, haction, hreplays,
      (replay_begun hrun hp hreplays).imp ?_⟩
    intro s₁ first hbegun
    obtain ⟨hcall, row, hrow, hread⟩ := hbegun
    obtain ⟨hsince, rfl⟩ := hread delivery htask
    exact ⟨hcall, .inl ⟨hsince, row, hrow, hstatus⟩⟩
  · have hreplays : p.task.replays = some id := by
      rw [htask]
      rfl
    have hbegun := replay_begun hrun hp hreplays
    obtain ⟨row, hrow⟩ := exists_row_of_begun hbegun
    have hreason : row.status ≠ .deadLetter ∨ row.replayCount = 1000000 := by
      by_contra hboth
      rw [not_or, not_not] at hboth
      have hbound := ((reachable_inv hrun.reachable).sound id _
        (Db.life_of_delivery hrow)).row.replayCount.2
      have hreplayable : row.isReplayable id := DeliveryRow.isReplayable_iff.mpr
        ⟨(Db.delivery_eq_some_iff.mp hrow).2, hboth.1, lt_of_le_of_ne hbound hboth.2⟩
      rw [hrow, Option.filter_some, if_pos hreplayable] at hrefused
      cases hrefused
    exact ⟨p, hp, id, haction, hreplays, hbegun.imp fun _ _ hbegun =>
      ⟨hbegun.1, .inr ⟨row, hrow, hreason⟩⟩⟩

end OutboundWebhook
