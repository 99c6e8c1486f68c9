import OutboundWebhook.Refinement
import Mathlib.Data.List.Perm.Subperm

/-!
# What a run did to one delivery

The labels of a run record which claims were returned, which requests were sent and which
outcomes were committed. For one delivery these are three lists of numbers, and three invariants
of the run and the state it has reached relate them to the row.

## Main results

* `claimsOf_numbered` — the claims of a delivery are numbered `1, 2, 3, …` in each cycle
* `count_postsOf_le` — no claim sends more than one request
* `leavingsOf_nodup` — no attempt is left twice
-/

namespace OutboundWebhook

variable {P : Platform}

/-- The claims of a delivery, in the order they were returned. -/
def claimsOf (id : String) (labels : List (Label P)) : List (ℤ × ℤ) :=
  labels.filterMap fun label => (label.observation.claimOf id).map DeliveryRecord.number

/-- The request sent for the delivery. -/
def Observation.postOf (o : Observation) (id : String) : Option Post :=
  o.posted.filter fun post => post.delivery.deliveryId = id

/-- The requests sent for a delivery. -/
def postsOf (id : String) (labels : List (Label P)) : List (ℤ × ℤ) :=
  labels.filterMap fun label => (label.observation.postOf id).map fun post => post.delivery.number

/-- Cycle and attempt number of an outcome. -/
def OutcomeCall.number (call : OutcomeCall) : ℤ × ℤ := (call.replayCount, call.receipt.attempt)

/-- The outcomes committed for a delivery that ended its attempt. -/
def leavingsOf (id : String) (labels : List (Label P)) : List (ℤ × ℤ) :=
  labels.filterMap fun label =>
    ((label.observation.outcomeOf id).filter fun call => call.status ≠ .delivering).map
      OutcomeCall.number

theorem claimsOf_snoc (id : String) (labels : List (Label P)) (label : Label P) :
    claimsOf id (labels ++ [label])
      = claimsOf id labels
        ++ ((label.observation.claimOf id).map DeliveryRecord.number).toList := by
  rw [claimsOf, List.filterMap_append, ← claimsOf]
  cases h : label.observation.claimOf id <;> simp [h]

theorem postsOf_snoc (id : String) (labels : List (Label P)) (label : Label P) :
    postsOf id (labels ++ [label])
      = postsOf id labels
        ++ ((label.observation.postOf id).map fun post => post.delivery.number).toList := by
  rw [postsOf, List.filterMap_append, ← postsOf]
  cases h : label.observation.postOf id <;> simp [h]

theorem leavingsOf_snoc (id : String) (labels : List (Label P)) (label : Label P) :
    leavingsOf id (labels ++ [label])
      = leavingsOf id labels
        ++ (((label.observation.outcomeOf id).filter fun call => call.status ≠ .delivering).map
          OutcomeCall.number).toList := by
  rw [leavingsOf, List.filterMap_append, ← leavingsOf, List.filterMap_cons, List.filterMap_nil]
  cases (((label.observation.outcomeOf id).filter fun call => call.status ≠ .delivering).map
    OutcomeCall.number) <;> rfl

/-! ### What can be said of a delivery that does not exist -/

theorem Writes.claimOf_eq_none {s : Sys P} (hinv : s.Inv) {begins : Timestamptz}
    {stored : Option Stored} {db' : Db} (h : Writes s begins stored db') {id : String}
    (hnone : s.db.life id = none) : stored.bind (Stored.claimOf id) = none := by
  cases h with
  | claim plugin locked =>
    obtain ⟨db', hok, -⟩ := hinv.claim plugin begins locked
    rw [hok]
    cases hc : s.db.candidate begins locked plugin.config.queueName with
    | none => rfl
    | some row =>
      refine if_neg ?_
      intro hid
      have hlife := Db.life_of_mem (Db.candidate_eq_some hc).1
      have heq : row.deliveryId = id := hid
      rw [heq, hnone] at hlife
      exact nomatch hlife
  | _ => rfl

theorem Writes.outcomeOf_eq_none {s : Sys P} {begins : Timestamptz} {stored : Option Stored}
    {db' : Db} (h : Writes s begins stored db') {id : String} (hnone : s.db.life id = none) :
    stored.bind (Stored.outcomeOf id) = none := by
  cases h with
  | @outcome p conclusion hp hsince houtcome =>
    cases hrun : conclusion.call.run begins s.db with
    | error e =>
      rw [transact_of_eq_error hrun]
      rfl
    | ok result =>
      obtain ⟨⟨⟩, db'⟩ := result
      rw [transact_of_eq_ok hrun]
      refine if_neg ?_
      intro hid
      obtain ⟨-, ⟨row, hrow, hfenced⟩, -⟩ := recordOutcome_ok_inv hrun
      have hlife := Db.life_of_mem hrow
      rw [(DeliveryRow.isFenced_iff.mp hfenced).1, hid, hnone] at hlife
      exact nomatch hlife
  | _ => rfl

/-! ### Claims -/

/-- **A claim takes the next number, and only a replay opens the next cycle.** -/
theorem Observed.claim_or {begins : Timestamptz} {id : String} {stored : Option Stored}
    {l l' : Life} (h : Observed begins id stored l l') (hid : l.row.deliveryId = id) :
    (stored.bind (Stored.claimOf id) = none ∧ l'.row.number = l.row.number) ∨
    (stored.bind (Stored.claimOf id) = none ∧ l.row.status = .deadLetter ∧
      l'.row.number = (l.row.replayCount + 1, 0)) ∨
    ∃ delivery, stored.bind (Stored.claimOf id) = some delivery ∧
      delivery.number = (l.row.replayCount, l.row.attempts + 1) ∧
      l'.row.number = (l.row.replayCount, l.row.attempts + 1) := by
  cases h with
  | still hclaim => exact .inl ⟨hclaim, rfl⟩
  | expired hother => exact .inl ⟨hother, rfl⟩
  | retired hother => exact .inl ⟨hother, rfl⟩
  | claimed => exact .inr (.inr ⟨_, if_pos hid, rfl, rfl⟩)
  | reclaimed => exact .inr (.inr ⟨_, if_pos hid, rfl, rfl⟩)
  | recorded => exact .inl ⟨rfl, rfl⟩
  | replayed hreplayable =>
    exact .inr (.inl ⟨rfl, (DeliveryRow.isReplayable_iff.mp hreplayable).2.1, rfl⟩)

/-- The claims of a delivery, against its row. -/
def ClaimsNumbered (id : String) (labels : List (Label P)) (db : Db) : Prop :=
  (db.life id = none → claimsOf id labels = []) ∧
    ∀ l, db.life id = some l →
      Numbered l.row.maxAttempts l.row.replayCount l.row.attempts (claimsOf id labels)

theorem ClaimsNumbered.step {id : String} {labels : List (Label P)} {label : Label P}
    {s t : Sys P} (hinv : s.Inv) (h : ClaimsNumbered id labels s.db) (hstep : Step s label t) :
    ClaimsNumbered id (labels ++ [label]) t.db := by
  have hrefines := hstep.writes.refines hinv
  cases hl : s.db.life id with
  | none =>
    have hclaims : claimsOf id (labels ++ [label]) = [] := by
      rw [claimsOf_snoc, h.1 hl, Observation.claimOf, hstep.writes.claimOf_eq_none hinv hl]
      rfl
    refine ⟨fun _ => hclaims, ?_⟩
    intro l' hl'
    obtain ⟨plugin, request, delivery, begins, -, rfl⟩ := hrefines.born id l' hl hl'
    rw [hclaims]
    exact Numbered.nil _
  | some l =>
    obtain ⟨l', hl', hobserved⟩ := hrefines.moves id l hl
    refine ⟨fun hnone => absurd hl' (by simp [hnone]), ?_⟩
    intro l'' hl''
    rw [hl', Option.some.injEq] at hl''
    subst hl''
    have hnumbered := h.2 l hl
    have hsound := hinv.sound id l hl
    have hmax : l'.row.maxAttempts = l.row.maxAttempts := by
      obtain ⟨l₁, hl₁, hevolves⟩ := hrefines.evolves id l hl
      rw [hl', Option.some.injEq] at hl₁
      subst hl₁
      exact congrArg Content.maxAttempts hevolves.content
    rw [claimsOf_snoc, Observation.claimOf, hmax]
    rcases hobserved.claim_or (Db.deliveryId_of_life hl) with
      ⟨hclaim, hnumber⟩ | ⟨hclaim, hdead, hnumber⟩ | ⟨delivery, hclaim, hrecord, hnumber⟩
    · obtain ⟨hcycle, hattempts⟩ := Prod.mk.inj hnumber
      rw [hclaim, hcycle, hattempts]
      simpa using hnumbered
    · have hstarted := hsound.row.started (.inr (.inr hdead))
      obtain ⟨hcycle, hattempts⟩ := Prod.mk.inj hnumber
      rw [hclaim, hcycle, hattempts]
      simpa using hnumbered.nextCycle hstarted.1 hstarted.2
    · obtain ⟨hcycle, hattempts⟩ := Prod.mk.inj hnumber
      rw [hclaim, hcycle, hattempts, Option.map_some, hrecord]
      exact hnumbered.push hsound.row.replayCount.1 hsound.row.attempts_nonneg

/-- **The claims of a delivery are numbered without gaps in each cycle.** -/
theorem claimsOf_numbered {labels : List (Label P)} {t : Sys P} (hrun : (system P).Run labels t)
    (id : String) : ClaimsNumbered id labels t.db := by
  refine hrun.induction (P := fun labels t => ClaimsNumbered id labels t.db) ?_
    fun labels s label t hs h hstep => h.step (reachable_inv hs.reachable) hstep
  intro s hinit
  exact ⟨fun _ => rfl, fun l hl => by simp [life_of_init hinit] at hl⟩

theorem claimsOf_nodup {labels : List (Label P)} {t : Sys P} (hrun : (system P).Run labels t)
    (id : String) : (claimsOf id labels).Nodup := by
  have h := claimsOf_numbered hrun id
  cases hl : t.db.life id with
  | none =>
    rw [h.1 hl]
    exact List.nodup_nil
  | some l => exact (h.2 l hl).nodup

/-! ### Requests -/

/-- The number of a claim whose request is still to be sent. -/
def Task.unposted (id : String) : Task P → Option (ℤ × ℤ)
  | .claimed _ _ delivery => if delivery.deliveryId = id then some delivery.number else none
  | _ => none

/-- The claims of the delivery whose requests are still to be sent. -/
def Sys.unposted (s : Sys P) (id : String) : List (ℤ × ℤ) :=
  s.pending.filterMap fun p => p.task.unposted id

theorem Effect.unposted_after (effect : Effect P) (takesEffect : Timestamptz)
    (rest : List (Pending P)) (id : String) :
    (effect.after takesEffect rest).unposted id
      = rest.filterMap (fun p => p.task.unposted id)
        ++ (effect.task.bind (Task.unposted id)).toList := by
  rw [Sys.unposted, Effect.after, List.filterMap_append]
  cases effect.task with
  | none => rfl
  | some task => cases h : task.unposted id <;> simp [h]

/-- A call that begins sends nothing, and what it leaves to be sent is what it has claimed. -/
theorem Call.FirstStretch.posts {call : Call P} {begins : Timestamptz} {locked : List String}
    {db : Db} {effect : Effect P} (h : call.FirstStretch begins locked db effect) (id : String) :
    effect.observation.postOf id = none ∧
      effect.task.bind (Task.unposted id)
        = (effect.observation.claimOf id).map DeliveryRecord.number := by
  cases h with
  | @claimed plugin caller prepared result db' hclaim =>
    refine ⟨rfl, ?_⟩
    rcases result with error | claimed
    · rfl
    · cases claimed with
      | none => rfl
      | some delivery =>
        by_cases hid : delivery.deliveryId = id <;>
          simp [claimAnswer, Task.unposted, Observation.claimOf, Stored.claimOf, hid]
  | _ => exact ⟨rfl, rfl⟩

/-- A call that goes on claims nothing, and sends at most what it had claimed. -/
theorem Task.NextStretch.posts {task : Task P} {input : Input} {begins : Timestamptz} {db : Db}
    {effect : Effect P} (h : task.NextStretch begins db input effect) (id : String) :
    effect.observation.claimOf id = none ∧ effect.task.bind (Task.unposted id) = none ∧
      (effect.observation.postOf id = none ∨
        (effect.observation.postOf id).map (fun post => post.delivery.number)
          = task.unposted id) := by
  cases h with
  | @posted plugin prepared delivery now request hsame hrequest =>
    refine ⟨rfl, rfl, .inr ?_⟩
    by_cases hid : delivery.deliveryId = id <;>
      simp [Observation.postOf, Task.unposted, hid, Option.filter]
  | _ => exact ⟨rfl, rfl, .inl rfl⟩

/-- What has been sent and what is still to be sent is covered by the claims. -/
theorem count_posts_le {labels : List (Label P)} {t : Sys P} (hrun : (system P).Run labels t)
    (id : String) (number : ℤ × ℤ) :
    (postsOf id labels).count number + (t.unposted id).count number
      ≤ (claimsOf id labels).count number := by
  refine hrun.induction
    (P := fun labels t => (postsOf id labels).count number + (t.unposted id).count number
      ≤ (claimsOf id labels).count number) ?_ ?_
  · rintro s ⟨-, hpending⟩
    simp [Sys.unposted, hpending, postsOf]
  intro labels s label t hs h hstep
  rw [postsOf_snoc, claimsOf_snoc, List.count_append, List.count_append]
  cases hstep with
  | @start begins takesEffect locked call hbegins hnow =>
    obtain ⟨hpost, htask⟩ := (call.firstStretch begins locked s.db).posts id
    rw [hpost, Effect.unposted_after, htask, List.count_append, ← Sys.unposted]
    simp only [Option.map_none, Option.toList_none, List.count_nil]
    omega
  | @resume begins takesEffect before after p input effect hbegins hnow hsince hpending heffect =>
    obtain ⟨hclaim, htask, hpost⟩ := (Task.nextStretch begins s.db heffect).posts id
    have hsplit : (s.unposted id).count number
        = ((before ++ after).filterMap fun p => p.task.unposted id).count number
          + (p.task.unposted id).toList.count number := by
      rw [Sys.unposted, hpending, List.filterMap_append, List.filterMap_append,
        List.filterMap_cons]
      cases p.task.unposted id <;> simp [List.count_append, List.count_cons]
      omega
    rw [hclaim, Effect.unposted_after, htask, Option.toList_none, List.append_nil]
    simp only [Option.map_none, Option.toList_none, List.count_nil]
    rcases hpost with hpost | hpost
    · -- what was to be sent, if anything, is dropped
      rw [hpost]
      simp only [Option.map_none, Option.toList_none, List.count_nil]
      omega
    · -- it is sent
      rw [hpost]
      omega
  | @stop takesEffect before after p hnow hpending =>
    have hsub : ((before ++ after).filterMap fun p => p.task.unposted id).count number
        ≤ (s.unposted id).count number := by
      rw [Sys.unposted, hpending]
      refine List.Sublist.count_le _ (List.Sublist.filterMap _ ?_)
      exact (List.sublist_cons_self p after).append_left before
    simp only [Observation.nothing, Observation.postOf, Observation.claimOf, Option.filter_none,
      Option.bind_none, Option.map_none, Option.toList_none, List.count_nil, Sys.unposted]
    omega

/-- **No claim sends more than one request.** -/
theorem count_postsOf_le {labels : List (Label P)} {t : Sys P} (hrun : (system P).Run labels t)
    (id : String) (number : ℤ × ℤ) :
    (postsOf id labels).count number ≤ (claimsOf id labels).count number := by
  have := count_posts_le hrun id number
  omega

/-! ### Outcomes -/

/-- **An attempt that is left is the current one, and it is not entered again.** -/
theorem Observed.leaving_or {begins : Timestamptz} {id : String} {stored : Option Stored}
    {l l' : Life} (h : Observed begins id stored l l') :
    (((stored.bind (Stored.outcomeOf id)).filter fun call => call.status ≠ .delivering) = none ∧
      (l'.row.number = l.row.number ∧
          (l.row.status ≠ .delivering → l'.row.status ≠ .delivering) ∨
        Before l.row.number l'.row.number)) ∨
    ∃ call, ((stored.bind (Stored.outcomeOf id)).filter fun call => call.status ≠ .delivering)
        = some call ∧ call.number = l.row.number ∧ l.row.status = .delivering ∧
      l'.row.number = l.row.number ∧ l'.row.status ≠ .delivering := by
  cases h with
  | still hclaim houtcome => exact .inl ⟨by rw [houtcome]; rfl, .inl ⟨rfl, fun h => h⟩⟩
  | expired => exact .inl ⟨rfl, .inl ⟨rfl, fun h => h⟩⟩
  | retired => exact .inl ⟨rfl, .inl ⟨rfl, fun _ => by simp [retireAssignment]⟩⟩
  | claimed =>
    exact .inl ⟨rfl, .inr (.inr ⟨rfl, show l.row.attempts < l.row.attempts + 1 by omega⟩)⟩
  | reclaimed =>
    exact .inl ⟨rfl, .inr (.inr ⟨rfl, show l.row.attempts < l.row.attempts + 1 by omega⟩)⟩
  | @recorded call _ hid hfenced =>
    obtain ⟨-, hnumber, hstatus, -⟩ := DeliveryRow.isFenced_iff.mp hfenced
    have houtcome : (some (Stored.outcome call (.ok ()))).bind (Stored.outcomeOf id) = some call :=
      if_pos hid
    rw [houtcome]
    by_cases hleave : call.status = .delivering
    · refine .inl ⟨by simp [Option.filter, hleave], .inl ⟨rfl, fun h => absurd hstatus h⟩⟩
    · exact .inr ⟨call, by simp [Option.filter, hleave], hnumber.symm, hstatus, rfl, hleave⟩
  | replayed =>
    exact .inl ⟨rfl, .inr (.inl (show l.row.replayCount < l.row.replayCount + 1 by omega))⟩

/-- The attempts of a delivery that were left, against its row. -/
def LeavingsClosed (id : String) (labels : List (Label P)) (db : Db) : Prop :=
  (leavingsOf id labels).Nodup ∧ (db.life id = none → leavingsOf id labels = []) ∧
    ∀ l, db.life id = some l → ∀ p ∈ leavingsOf id labels,
      Before p l.row.number ∨ p = l.row.number ∧ l.row.status ≠ .delivering

theorem LeavingsClosed.step {id : String} {labels : List (Label P)} {label : Label P}
    {s t : Sys P} (hinv : s.Inv) (h : LeavingsClosed id labels s.db) (hstep : Step s label t) :
    LeavingsClosed id (labels ++ [label]) t.db := by
  have hrefines := hstep.writes.refines hinv
  obtain ⟨hnodup, hempty, hclosed⟩ := h
  rw [LeavingsClosed, leavingsOf_snoc, Observation.outcomeOf]
  cases hl : s.db.life id with
  | none =>
    rw [hstep.writes.outcomeOf_eq_none hl, hempty hl]
    simp
  | some l =>
    obtain ⟨l', hl', hobserved⟩ := hrefines.moves id l hl
    have hclosed := hclosed l hl
    rcases hobserved.leaving_or with ⟨hleave, hmove⟩ | ⟨call, hleave, hcall, hstatus, hsame, hleft⟩
    · rw [hleave, Option.map_none, Option.toList_none, List.append_nil]
      refine ⟨hnodup, fun hnone => absurd hl' (by simp [hnone]), ?_⟩
      intro l'' hl'' p hp
      rw [hl', Option.some.injEq] at hl''
      subst hl''
      rcases hmove with ⟨hsame, hkeep⟩ | hlt
      · rw [hsame]
        exact (hclosed p hp).imp_right fun hcurrent => ⟨hcurrent.1, hkeep hcurrent.2⟩
      · rcases hclosed p hp with hbefore | ⟨rfl, -⟩
        · exact .inl (hbefore.trans hlt)
        · exact .inl hlt
    · rw [hleave, Option.map_some, Option.toList_some]
      have hfresh : call.number ∉ leavingsOf id labels := by
        intro hmem
        rcases hclosed _ hmem with hbefore | ⟨-, hnot⟩
        · exact hbefore.ne hcall
        · exact hnot hstatus
      refine ⟨?_, fun hnone => absurd hl' (by simp [hnone]), ?_⟩
      · rw [← List.concat_eq_append]
        exact hnodup.concat hfresh
      · intro l'' hl'' p hp
        rw [hl', Option.some.injEq] at hl''
        subst hl''
        rw [hsame]
        rcases List.mem_append.mp hp with hp | hp
        · rcases hclosed p hp with hbefore | ⟨-, hnot⟩
          · exact .inl hbefore
          · exact absurd hstatus hnot
        · rw [List.mem_singleton.mp hp]
          exact .inr ⟨hcall, hleft⟩

/-- **No attempt is left twice.** -/
theorem leavingsOf_nodup {labels : List (Label P)} {t : Sys P} (hrun : (system P).Run labels t)
    (id : String) : (leavingsOf id labels).Nodup := by
  have h : LeavingsClosed id labels t.db := by
    refine hrun.induction (P := fun labels t => LeavingsClosed id labels t.db) ?_
      fun labels s label t hs h hstep => h.step (reachable_inv hs.reachable) hstep
    intro s hinit
    exact ⟨List.nodup_nil, fun _ => rfl, fun l hl => by simp [life_of_init hinit] at hl⟩
  exact h.1

end OutboundWebhook
