import OutboundWebhook.Backoff
import OutboundWebhook.Dispatch
import OutboundWebhook.History
import OutboundWebhook.Queue

/-!
# Leases and backoff over whole runs

Two gates keep a worker away from a delivery: its lease while it is being delivered, and its time
of availability while it waits for a retry. A claim looks at one or the other, by the status of the
row. Every operation that touches the row may write them, so "nothing moves a gate back" is a
statement about all of them, over any number of steps.

## The two gates as invariants

`Life.UnderLease` is what holds of a delivery from a claim on, until an outcome ends the attempt:
it is under exactly the lease of that claim, or it was retired, or the attempt is behind it.
`Life.BackedOff` is the same for a scheduled retry. Each is kept by every transaction
(`Observed.underLease`, `Observed.backedOff`), and each says when a claim may come next
(`Observed.lease_le`, `Observed.available_le`).

The timestamps of transactions are the times they began, and they are not ordered: a claim that
began earlier may take effect later. The gates bind it all the same.

## Main results

* `lease_and_backoff`
-/

namespace OutboundWebhook

variable {P : Platform} {begins : Timestamptz} {id : String} {stored : Option Stored} {l l' : Life}
  {number : ℤ × ℤ}

/-! ### The gates -/

/-- The attempt is under this lease, or was retired, or is over. -/
def Life.UnderLease (number : ℤ × ℤ) (lease : Timestamptz) (l : Life) : Prop :=
  Before number l.row.number ∨ l.row.number = number ∧
    (l.row.status = .delivering ∧ l.row.leaseExpiresAt = some lease ∨ l.row.status = .deadLetter)

/-- The delivery waits until this time, or the cycle is over. -/
def Life.BackedOff (number : ℤ × ℤ) (available : Timestamptz) (l : Life) : Prop :=
  number.1 < l.row.replayCount ∨ l.row.number = number ∧ l.row.status = .retryScheduled ∧
    l.row.availableAt = available

theorem Life.UnderLease.of_before {lease : Timestamptz} (h : l.UnderLease number lease)
    (hbefore : Before l.row.number l'.row.number) : l'.UnderLease number lease := by
  rcases h with h | ⟨hnumber, -⟩
  · exact .inl (h.trans hbefore)
  · exact .inl (hnumber ▸ hbefore)

theorem before_claimed (leaseSeconds : ℤ) (row : DeliveryRow) :
    Before row.number (row.assign (claimAssignment begins leaseSeconds row)).number :=
  .inr ⟨rfl, show row.attempts < row.attempts + 1 by omega⟩

theorem before_replayed (row : DeliveryRow) :
    Before row.number (row.assign (replayAssignment begins row)).number :=
  .inl (show row.replayCount < row.replayCount + 1 by omega)

/-- The transaction ends no attempt of this number with an outcome. -/
def NotLeft (stored : Option Stored) (id : String) (number : ℤ × ℤ) : Prop :=
  ∀ call, stored.bind (Stored.outcomeOf id) = some call →
    (call.replayCount, call.receipt.attempt) = number → call.status = .delivering

/-- The transaction claims nothing in this cycle. -/
def NotClaimed (stored : Option Stored) (id : String) (cycle : ℤ) : Prop :=
  ∀ delivery, stored.bind (Stored.claimOf id) = some delivery → delivery.replayCount ≠ cycle

/-- **Only an outcome takes a delivery from under its lease early.** -/
theorem Observed.underLease (h : Observed begins id stored l l') {lease : Timestamptz}
    (hlease : l.UnderLease number lease) (hkept : NotLeft stored id number) :
    l'.UnderLease number lease := by
  cases h with
  | still => exact hlease
  | expired => exact hlease
  | retired hother hexpired hlast =>
    rcases hlease with hlease | ⟨hnumber, -⟩
    · exact .inl hlease
    · exact .inr ⟨hnumber, .inr rfl⟩
  | claimed leaseSeconds => exact hlease.of_before (before_claimed leaseSeconds l.row)
  | reclaimed leaseSeconds => exact hlease.of_before (before_claimed leaseSeconds l.row)
  | @recorded call _ hid hfenced =>
    obtain ⟨-, hcall, hstatus, -⟩ := DeliveryRow.isFenced_iff.mp hfenced
    rcases hlease with hlease | ⟨hnumber, ⟨-, hheld⟩ | hdead⟩
    · exact .inl hlease
    · have hdelivering : call.status = .delivering :=
        hkept call (if_pos hid) (hcall.symm.trans hnumber)
      refine .inr ⟨hnumber, .inl ⟨hdelivering, ?_⟩⟩
      simp [outcomeAssignment, hdelivering, hheld]
    · rw [hdead] at hstatus
      cases hstatus
  | replayed => exact hlease.of_before (before_replayed l.row)

/-- **A claim that ends the attempt comes when its lease is over.** -/
theorem Observed.lease_le {queueName : String}
    {result : Except (Abort StoreError) (Option DeliveryRecord)}
    (h : Observed begins id (some (.claim queueName result)) l l') {lease : Timestamptz}
    (hlease : l.UnderLease l.row.number lease) (hchanged : l'.row ≠ l.row) : lease ≤ begins := by
  have hheld : l.row.status = .delivering ∧ l.row.leaseExpiresAt = some lease ∨
      l.row.status = .deadLetter := by
    rcases hlease with hlease | ⟨-, hheld⟩
    · exact absurd rfl hlease.ne
    · exact hheld
  have hover : l.row.isExpired begins queueName → lease ≤ begins := by
    intro hexpired
    obtain ⟨-, hstatus, hover⟩ := DeliveryRow.isExpired_iff.mp hexpired
    obtain ⟨lease', hlease', hle⟩ := DeliveryRow.leaseExpired_iff.mp hover
    rcases hheld with ⟨-, hheld⟩ | hdead
    · rw [hheld, Option.some.injEq] at hlease'
      exact hlease' ▸ hle
    · rw [hdead] at hstatus
      exact nomatch hstatus
  cases h with
  | still => exact absurd rfl hchanged
  | expired => exact absurd rfl hchanged
  | retired hother hexpired => exact hover hexpired
  | claimed leaseSeconds hwaiting =>
    have hstatus := (DeliveryRow.isWaiting_iff.mp hwaiting).1
    rcases hheld with ⟨hs, -⟩ | hs <;> rw [hs] at hstatus <;> simp at hstatus
  | reclaimed leaseSeconds hexpired => exact hover hexpired

/-- **Nothing but its next claim moves a scheduled retry.** -/
theorem Observed.backedOff (h : Observed begins id stored l l') (hid : l.row.deliveryId = id)
    {available : Timestamptz} (hwaits : l.BackedOff number available)
    (hkept : NotClaimed stored id number.1) : l'.BackedOff number available := by
  rcases hwaits with hover | ⟨hnumber, hstatus, havailable⟩
  · have hcycle : l.row.replayCount ≤ l'.row.replayCount := by
      rcases h.step with rfl | hstep
      · exact le_refl _
      · rcases hstep.progress with heq | hlt | ⟨heq, -⟩
        · exact (Prod.mk.inj heq).1.ge
        · exact le_of_lt hlt
        · exact le_of_eq heq
    exact .inl (lt_of_lt_of_le hover hcycle)
  · cases h with
    | still => exact .inr ⟨hnumber, hstatus, havailable⟩
    | expired => exact .inr ⟨hnumber, hstatus, havailable⟩
    | retired hother hexpired =>
      have hdelivering := (DeliveryRow.isExpired_iff.mp hexpired).2.1
      rw [hstatus] at hdelivering
      exact nomatch hdelivering
    | claimed leaseSeconds =>
      exact absurd (congrArg Prod.fst hnumber) (hkept _ (if_pos hid))
    | reclaimed leaseSeconds =>
      exact absurd (congrArg Prod.fst hnumber) (hkept _ (if_pos hid))
    | recorded _ hfenced =>
      have hdelivering := (DeliveryRow.isFenced_iff.mp hfenced).2.2.1
      rw [hstatus] at hdelivering
      exact nomatch hdelivering
    | replayed hreplayable =>
      have hdead := (DeliveryRow.isReplayable_iff.mp hreplayable).2.1
      rw [hstatus] at hdead
      exact nomatch hdead

/-- **The next claim of the cycle comes when the retry is due.** -/
theorem Observed.available_le (h : Observed begins id stored l l') (hid : l.row.deliveryId = id)
    {available : Timestamptz} (hwaits : l.BackedOff number available) {delivery : DeliveryRecord}
    (hclaim : stored.bind (Stored.claimOf id) = some delivery)
    (hcycle : delivery.replayCount = number.1) : available ≤ begins := by
  have hrow : delivery.replayCount = l.row.replayCount := by
    rcases h.claim_or hid with ⟨hnone, -⟩ | ⟨hnone, -⟩ | ⟨delivery', hsome, hnumber, -⟩
    · exact nomatch hnone.symm.trans hclaim
    · exact nomatch hnone.symm.trans hclaim
    · obtain rfl := Option.some.inj (hsome.symm.trans hclaim)
      exact congrArg Prod.fst hnumber
  obtain ⟨hstatus, havailable⟩ :
      l.row.status = .retryScheduled ∧ l.row.availableAt = available := by
    rcases hwaits with hwaits | ⟨-, hwaits⟩
    · omega
    · exact hwaits
  cases h with
  | still hnone => exact nomatch hnone.symm.trans hclaim
  | expired hother => exact nomatch hother.symm.trans hclaim
  | retired hother => exact nomatch hother.symm.trans hclaim
  | claimed leaseSeconds hwaiting =>
    exact havailable ▸ (DeliveryRow.isWaiting_iff.mp hwaiting).2
  | reclaimed leaseSeconds hexpired =>
    have hdelivering := (DeliveryRow.isExpired_iff.mp hexpired).2.1
    rw [hstatus] at hdelivering
    exact nomatch hdelivering
  | recorded => exact nomatch hclaim
  | replayed => exact nomatch hclaim

/-! ### Where the gates come from -/

/-- A claim puts the delivery under the lease of the instance that claims it. -/
theorem Step.claim_lease {s t : Sys P} {label : Label P} (h : Step s label t) (hinv : s.Inv)
    {plugin : OutboundWebhookPlugin P} {caller : Option String}
    (haction : label.action = .start (.dispatch plugin caller)) {delivery : DeliveryRecord}
    (hclaim : label.observation.claimOf id = some delivery) :
    ∃ l, t.db.life id = some l ∧ l.UnderLease delivery.number
      (label.begins + seconds plugin.config.leaseSeconds) := by
  cases h with
  | resume => exact nomatch haction
  | stop => exact nomatch haction
  | @start begins takesEffect locked call hbegins hnow =>
    obtain rfl : call = .dispatch plugin caller := Action.start.inj haction
    have hfirst := (Call.dispatch plugin caller).firstStretch begins locked s.db
    show ∃ l, ((Call.dispatch plugin caller).start begins locked s.db).db.life id = some l ∧ _
    generalize (Call.dispatch plugin caller).start begins locked s.db = effect at hfirst hclaim
    cases hfirst with
    | dispatchRefused => exact nomatch hclaim
    | @claimed _ _ prepared result db' hdue =>
      obtain ⟨db'', hok, hd, -⟩ := hinv.claim plugin begins locked
      rw [hdue, Prod.mk.injEq] at hok
      obtain ⟨rfl, rfl⟩ := hok
      cases hc : s.db.candidate begins locked plugin.config.queueName with
      | none =>
        rw [hc] at hclaim
        exact nomatch hclaim
      | some row =>
        rw [hc] at hclaim
        by_cases hid : row.deliveryId = id
        · obtain rfl : decodeDelivery (row.assign
              (claimAssignment begins plugin.config.leaseSeconds row)) = delivery :=
            Option.some.inj ((if_pos hid).symm.trans hclaim)
          have hrow : s.db.delivery id = some row :=
            hid ▸ Db.delivery_of_mem (Db.candidate_eq_some hc).1
          have hdelivery : db'.delivery id = some (row.assign
              (claimAssignment begins plugin.config.leaseSeconds row)) := by
            rw [Db.delivery_of_map hd Db.afterClaim_deliveryId, hrow, Option.map_some,
              Db.afterClaim_of_candidate hc]
          exact ⟨_, Db.life_of_delivery hdelivery, .inr ⟨rfl, .inl ⟨rfl, rfl⟩⟩⟩
        · exact nomatch (if_neg hid).symm.trans hclaim

variable {plugin : OutboundWebhookPlugin P} {delivery : DeliveryRecord}
  {response : Except ClientInvocationError SendResponse} {receivedAt decidedAt : OffsetDateTime}

/-- A step that finishes a dispatch is the stretch of its response. -/
theorem Step.finish_inv {s t : Sys P} {label : Label P} (h : Step s label t)
    (haction : label.action
      = .resume (.posted plugin delivery) (.response response receivedAt decidedAt)) :
    ∃ p ∈ s.pending, p.task = .posted plugin delivery ∧
      label.observation = (finishDispatch plugin delivery response receivedAt decidedAt label.begins
        s.db).observation ∧
      t.db
        = (finishDispatch plugin delivery response receivedAt decidedAt label.begins s.db).db := by
  obtain ⟨p, hp, htask, -, effect, heffect, hobservation, hdb⟩ := h.resume_inv haction
  obtain rfl := Option.some.inj heffect
  exact ⟨p, hp, htask, hobservation, hdb⟩

/-- Only a retry has a next time, and it is counted from the second clock reading. -/
theorem finishOutcome_retry {config : OutboundWebhookConfig} {conclusion : Conclusion}
    (h : finishOutcome P config delivery response receivedAt decidedAt = .ok conclusion)
    (hretry : conclusion.call.status = .retryScheduled) :
    ∃ next, conclusion.call.nextAvailableAt = some next ∧
      (databaseTimestampNow decidedAt).checkedAdd (retryDelaySeconds delivery.attempts
        config.retryBaseSeconds config.retryMaxSeconds) = some next := by
  cases finishOutcome_verdict h with
  | retried _ _ _ hnext hsum => exact ⟨_, hnext, hsum⟩
  | delivered _ hstatus => cases hstatus.symm.trans hretry
  | abandoned _ _ _ hstatus => cases hstatus.symm.trans hretry
  | left _ hstatus => cases hstatus.symm.trans hretry

/-- An outcome that schedules a retry sets the time of the delivery by the policy. -/
theorem Step.retry_available {s t : Sys P} {label : Label P} (h : Step s label t) (hinv : s.Inv)
    (haction : label.action
      = .resume (.posted plugin delivery) (.response response receivedAt decidedAt))
    {call : OutcomeCall} (houtcome : label.observation.outcomeOf delivery.deliveryId = some call)
    (hretry : call.status = .retryScheduled) :
    ∃ l, t.db.life delivery.deliveryId = some l ∧ l.BackedOff delivery.number
      (toTimestamptz (databaseTimestampNow decidedAt) + seconds (min (plugin.config.retryBaseSeconds
        * 2 ^ (delivery.attempts - 1).toNat) plugin.config.retryMaxSeconds)) := by
  obtain ⟨p, hp, htask, hobservation, hdb⟩ := h.finish_inv haction
  have hknown := hinv.known p hp delivery (by rw [htask]; rfl)
  rw [hobservation] at houtcome
  rw [finishDispatch] at houtcome hdb
  cases hfinish : finishOutcome P plugin.config delivery response receivedAt decidedAt with
  | error abort =>
    rw [hfinish] at houtcome
    cases houtcome
  | ok conclusion =>
    rw [hfinish] at houtcome hdb
    have hfor := finishOutcome_for hfinish
    cases hrun : conclusion.call.run label.begins s.db with
    | error e =>
      simp [Conclusion.record, transact_of_eq_error hrun, Observation.outcomeOf, Stored.outcomeOf]
        at houtcome
    | ok value =>
      obtain ⟨⟨⟩, db'⟩ := value
      obtain ⟨-, hfenced, hd, ha⟩ := recordOutcome_ok_inv hrun
      simp only [Conclusion.record, transact_of_eq_ok hrun] at houtcome hdb
      obtain rfl : conclusion.call = call :=
        Option.some.inj ((if_pos hfor.deliveryId).symm.trans houtcome)
      obtain ⟨row, hrow, -⟩ := hknown.row
      obtain ⟨fenced, hmem, hfence⟩ := hfenced
      obtain ⟨hid, hnumber, -⟩ := DeliveryRow.isFenced_iff.mp hfence
      have hlife := Db.life_afterOutcome (Db.life_of_mem hmem) ⟨fenced, hmem, hfence⟩ rfl hd ha
      rw [hid, if_pos rfl, hfor.deliveryId] at hlife
      refine ⟨_, hdb ▸ hlife, .inr ⟨?_, hretry, ?_⟩⟩
      · rw [hfor.replayCount, hfor.attempt] at hnumber
        exact hnumber
      · obtain ⟨next, hnext, hsum⟩ := finishOutcome_retry hfinish hretry
        have hattempts : 1 ≤ delivery.attempts ∧ delivery.attempts ≤ 100 :=
          ⟨hknown.attempts.1, hknown.attempts.2.trans hknown.maxAttempts⟩
        show ((conclusion.call.nextAvailableAt.map toTimestamptz).getD fenced.availableAt) = _
        rw [hnext, Option.map_some, Option.getD_some, toTimestamptz_checkedAdd hsum,
          plugin.valid.retryDelaySeconds_eq hattempts]

/-- **A runtime failure leaves both gates where they are.** -/
theorem Step.runtime_failure {s t : Sys P} {label : Label P} (h : Step s label t)
    {error : RuntimeFailure}
    (haction : label.action = .resume (.posted plugin delivery)
      (.response (.error (.runtime error)) receivedAt decidedAt)) {row : DeliveryRow}
    (hrow : s.db.delivery id = some row) :
    ∃ row', t.db.delivery id = some row' ∧ row'.leaseExpiresAt = row.leaseExpiresAt ∧
      row'.availableAt = row.availableAt ∧ row'.status = row.status := by
  obtain ⟨p, hp, htask, -, hdb⟩ := h.finish_inv haction
  obtain ⟨conclusion, hfinish, hstatus, hnext⟩ : ∃ conclusion,
      finishOutcome P plugin.config delivery (.error (.runtime error)) receivedAt decidedAt
        = .ok conclusion ∧
      conclusion.call.status = .delivering ∧ conclusion.call.nextAvailableAt = none :=
    ⟨_, rfl, rfl, rfl⟩
  rw [finishDispatch, hfinish] at hdb
  cases hrun : conclusion.call.run label.begins s.db with
  | error e =>
    simp only [Conclusion.record, transact_of_eq_error hrun] at hdb
    exact ⟨row, by rw [hdb, hrow], rfl, rfl, rfl⟩
  | ok value =>
    obtain ⟨⟨⟩, db'⟩ := value
    obtain ⟨-, -, hd, -⟩ := recordOutcome_ok_inv hrun
    simp only [Conclusion.record, transact_of_eq_ok hrun] at hdb
    rw [hdb, Db.delivery_of_map hd (DeliveryRow.updated_deliveryId _ _), hrow]
    refine ⟨_, rfl, ?_⟩
    rw [DeliveryRow.updated]
    split
    · rename_i hfence
      rw [hstatus, hnext]
      exact ⟨rfl, rfl, (DeliveryRow.isFenced_iff.mp hfence).2.2.1.symm⟩
    · exact ⟨rfl, rfl, rfl⟩

/-! ### Whole runs -/

section Runs

variable {s t t' : Sys P} {labels : List (Label P)} {next : Label P}

theorem path_underLease (hs : (system P).Reachable s) (hpath : (system P).Path s labels t)
    {lease : Timestamptz} (h : ∃ l, s.db.life id = some l ∧ l.UnderLease number lease)
    (hkept : ∀ label ∈ labels, NotLeft label.observation.stored id number) :
    ∃ l, t.db.life id = some l ∧ l.UnderLease number lease := by
  refine hpath.invariant (I := fun s => ∃ l, s.db.life id = some l ∧ l.UnderLease number lease)
    hs h ?_
  rintro s label t hs hlabel ⟨l, hl, hlease⟩ hstep
  obtain ⟨l', hl', hobserved⟩ := ((Step.writes hstep).refines (reachable_inv hs)).moves id l hl
  exact ⟨l', hl', hobserved.underLease hlease (hkept label hlabel)⟩

theorem path_backedOff (hs : (system P).Reachable s) (hpath : (system P).Path s labels t)
    {available : Timestamptz} (h : ∃ l, s.db.life id = some l ∧ l.BackedOff number available)
    (hkept : ∀ label ∈ labels, NotClaimed label.observation.stored id number.1) :
    ∃ l, t.db.life id = some l ∧ l.BackedOff number available := by
  refine hpath.invariant (I := fun s => ∃ l, s.db.life id = some l ∧ l.BackedOff number available)
    hs h ?_
  rintro s label t hs hlabel ⟨l, hl, hwaits⟩ hstep
  obtain ⟨l', hl', hobserved⟩ := ((Step.writes hstep).refines (reachable_inv hs)).moves id l hl
  exact ⟨l', hl', hobserved.backedOff (Db.deliveryId_of_life hl) hwaits (hkept label hlabel)⟩

/-- The step is a claim that ends the attempt: it claims the delivery again, or retires it. -/
def ClosedByClaim (id : String) (number : ℤ × ℤ) (s : Sys P) (label : Label P) (t : Sys P) : Prop :=
  (∃ queueName result, label.observation.stored = some (.claim queueName result)) ∧
    ∃ row row', s.db.delivery id = some row ∧ row.number = number ∧
      t.db.delivery id = some row' ∧ row' ≠ row

/-- The next claim or retirement comes when the lease is over. -/
theorem lease_le_of_closed (hs : (system P).Reachable s) (hstep : Step s next t)
    {lease : Timestamptz} (h : ∃ l, s.db.life id = some l ∧ l.UnderLease number lease)
    (hclosed : ClosedByClaim id number s next t) : lease ≤ next.begins := by
  obtain ⟨⟨queueName, result, hstored⟩, row, row', hrow, hnumber, hrow', hne⟩ := hclosed
  obtain ⟨l, hl, hlease⟩ := h
  obtain ⟨l', hl', hobserved⟩ := (hstep.writes.refines (reachable_inv hs)).moves id l hl
  obtain rfl : l.row = row := Option.some.inj ((Db.life_eq_some_iff.mp hl).1.symm.trans hrow)
  obtain rfl : l'.row = row' := Option.some.inj ((Db.life_eq_some_iff.mp hl').1.symm.trans hrow')
  rw [hstored] at hobserved
  exact hobserved.lease_le (hnumber ▸ hlease) hne

/-- The next claim comes when the retry is due. -/
theorem available_le_of_claimed (hs : (system P).Reachable s) (hstep : Step s next t)
    {available : Timestamptz} (h : ∃ l, s.db.life id = some l ∧ l.BackedOff number available)
    {delivery : DeliveryRecord} (hclaim : next.observation.claimOf id = some delivery)
    (hcycle : delivery.replayCount = number.1) : available ≤ next.begins := by
  obtain ⟨l, hl, hwaits⟩ := h
  obtain ⟨l', -, hobserved⟩ := (hstep.writes.refines (reachable_inv hs)).moves id l hl
  exact hobserved.available_le (Db.deliveryId_of_life hl) hwaits hclaim hcycle

end Runs

/-- **Lease exclusion and backoff.** Of any step of any run:

* if it claims the delivery, then no later step claims or retires that attempt at a timestamp
  before the end of its lease, unless an outcome has ended the attempt on the way;
* if it finishes a dispatch with a runtime failure, no lease and no time of availability changes;
* if it schedules a retry, then the next claim of that cycle, whatever happens in between, has a
  timestamp no earlier than the clock reading, cut to the microsecond, and the exponential delay.
-/
theorem lease_and_backoff (P : Platform) {s s' : Sys P} {label : Label P}
    (hs : (system P).Reachable s) (hstep : (system P).step s label s') (id : String) :
    (∀ plugin caller delivery, label.action = .start (.dispatch plugin caller) →
      label.observation.claimOf id = some delivery →
      ∀ labels t next t', (system P).Path s' labels t →
        (∀ between ∈ labels, NotLeft between.observation.stored id delivery.number) →
        (system P).step t next t' → ClosedByClaim id delivery.number t next t' →
        label.begins + seconds plugin.config.leaseSeconds ≤ next.begins) ∧
    (∀ plugin delivery error receivedAt decidedAt,
      label.action = .resume (.posted plugin delivery)
        (.response (.error (.runtime error)) receivedAt decidedAt) →
      ∀ row, s.db.delivery id = some row →
        ∃ row', s'.db.delivery id = some row' ∧ row'.leaseExpiresAt = row.leaseExpiresAt ∧
          row'.availableAt = row.availableAt ∧ row'.status = row.status) ∧
    (∀ plugin delivery response receivedAt decidedAt call, delivery.deliveryId = id →
      label.action = .resume (.posted plugin delivery) (.response response receivedAt decidedAt) →
      label.observation.outcomeOf id = some call → call.status = .retryScheduled →
      ∀ labels t next t' delivery', (system P).Path s' labels t →
        (∀ between ∈ labels, NotClaimed between.observation.stored id delivery.replayCount) →
        (system P).step t next t' → next.observation.claimOf id = some delivery' →
        delivery'.replayCount = delivery.replayCount →
        toTimestamptz (databaseTimestampNow decidedAt) + seconds (min
          (plugin.config.retryBaseSeconds * 2 ^ (delivery.attempts - 1).toNat)
          plugin.config.retryMaxSeconds) ≤ next.begins) := by
  have hinv := reachable_inv hs
  have hs' := hs.step hstep
  refine ⟨?_, ?_, ?_⟩
  · intro plugin caller delivery haction hclaim labels t next t' hpath hkept hnext hclosed
    have hlease := Step.claim_lease hstep hinv haction hclaim
    exact lease_le_of_closed (hs'.path hpath) hnext (path_underLease hs' hpath hlease hkept) hclosed
  · intro plugin delivery error receivedAt decidedAt haction row hrow
    exact Step.runtime_failure hstep haction hrow
  · rintro plugin delivery response receivedAt decidedAt call rfl haction houtcome hretry labels t
      next t' delivery' hpath hkept hnext hclaim hcycle
    have hwaits := Step.retry_available hstep hinv haction houtcome hretry
    exact available_le_of_claimed (hs'.path hpath) hnext (path_backedOff hs' hpath hwaits hkept)
      hclaim hcycle

/-- The first order is claimed, the second one is enqueued, and the first one is claimed again when
its lease is over. -/
theorem exists_first_reclaimed :
    ∃ s label s' between t next t', (system reference).Reachable s ∧
      (system reference).step s label s' ∧
      label.action = .start (.dispatch firstOrder.plugin firstOrder.operator) ∧
      label.observation.claimOf firstOrder.delivery.deliveryId
        = some (decodeDelivery (firstOrder.row 0)) ∧
      (system reference).step s' between t ∧
      between.action = .start (.enqueue secondOrder.plugin secondOrder.producer secondOrder.now
        secondOrder.request) ∧
      NotLeft between.observation.stored firstOrder.delivery.deliveryId (0, 1) ∧
      (system reference).step t next t' ∧
      ClosedByClaim firstOrder.delivery.deliveryId (0, 1) t next t' := by
  have hinit : (system reference).Reachable ⟨Db.empty, 0, []⟩ := ⟨[], _, ⟨rfl, rfl⟩, rfl⟩
  obtain ⟨s₁, henqueue, hd₁, -, -, hn₁⟩ := @exists_enqueue reference ⟨Db.empty, 0, []⟩ 0
    _ _ _ _ _ firstOrder.accepted List.not_mem_nil List.not_mem_nil (le_refl 0)
  have hs₁ := hinit.step henqueue
  obtain ⟨hcandidate, -, hafter⟩ := @Db.claim_of_allBusy 0 Db.empty s₁.db
    (firstOrder.delivery.toRow 0) (fun row hrow => nomatch hrow) hd₁ (by decide) (by decide)
  obtain ⟨s₂, hclaim, hd₂, -, -, hn₂⟩ := @exists_claim reference s₁ 0 (reachable_inv hs₁)
    firstOrder.plugin firstOrder.operator firstOrder.prepared 0 _ rfl rfl hcandidate (le_refl 0)
    (le_of_eq hn₁)
  have hd₂ : s₂.db.deliveries = [firstOrder.row 0] := hd₂.trans (hafter 30)
  obtain ⟨s₃, hother, hd₃, -, -, hn₃⟩ := @exists_enqueue reference s₂ 1000000 _ _ _ _ _
    secondOrder.accepted (by rw [hd₂]; decide +kernel) (by rw [hd₂]; decide +kernel)
    (by rw [hn₂]; decide)
  rw [hd₂] at hd₃
  have hs₃ := (hs₁.step hclaim).step hother
  have hfirst : firstOrder.row 0 ∈ s₃.db.deliveries := by
    rw [hd₃]
    exact List.mem_cons_self
  -- the second order is available a second later
  have hagain : s₃.db.candidate 30000000 [] "webhooks" = some (firstOrder.row 0) :=
    Db.candidate_of_pair hd₃ rfl (by decide) (by decide)
      (Prod.Lex.toLex_le_toLex.mpr (.inl (by decide)))
  obtain ⟨s₄, hnext, hd₄, -⟩ := @exists_claim reference s₃ 30000000 (reachable_inv hs₃)
    firstOrder.plugin firstOrder.operator firstOrder.prepared 30000000 _ rfl rfl hagain
    (le_refl _) (by rw [hn₃]; decide)
  have hrow : s₃.db.delivery firstOrder.delivery.deliveryId = some (firstOrder.row 0) :=
    Db.delivery_of_mem hfirst
  refine ⟨s₁, _, s₂, _, s₃, _, s₄, hs₁, hclaim, rfl, ?_, hother, rfl, ?_, hnext, ⟨_, _, rfl⟩,
    firstOrder.row 0, (firstOrder.row 0).assign (claimAssignment 30000000 30 (firstOrder.row 0)),
    hrow, rfl, ?_, ?_⟩
  · rw [Observation.claimOf, Option.bind_some]
    exact Stored.claimOf_of_eq rfl
  · intro call hcall
    cases hcall
  · rw [Db.delivery_of_map hd₄ Db.afterClaim_deliveryId, hrow, Option.map_some]
    exact congrArg some (Db.afterClaim_of_candidate hagain)
  · intro hsame
    exact absurd (congrArg DeliveryRow.attempts hsame) (by decide)

/-- The retry of the first order, decided after two seconds, is due after seven; and the lease of
its claim keeps others away for thirty seconds, in which the second order is enqueued. -/
theorem lease_and_backoff_first :
    (∃ s next t, (system reference).Reachable s ∧ (system reference).step s next t ∧
      (next.observation.claimOf firstOrder.delivery.deliveryId).isSome ∧
      toTimestamptz (databaseTimestampNow retryReading) + seconds (min (5 * 2 ^ 0) 300)
        ≤ next.begins) ∧
    ∃ s label s' between t next t', (system reference).Reachable s ∧
      (system reference).step s label s' ∧
      (label.observation.claimOf firstOrder.delivery.deliveryId).isSome ∧
      (system reference).Path s' [between] t ∧ (system reference).step t next t' ∧
      ClosedByClaim firstOrder.delivery.deliveryId (0, 1) t next t' ∧
      label.begins + seconds 30 ≤ next.begins := by
  constructor
  · obtain ⟨s, label, s', call, next, t, delivery', hs, hstep, haction, houtcome, hretry, hnext,
      hclaim, hcycle, -⟩ := exists_first_retried
    obtain ⟨-, -, hbackoff⟩ :=
      lease_and_backoff reference hs hstep firstOrder.delivery.deliveryId
    refine ⟨s', next, t, hs.step hstep, hnext, Option.isSome_of_eq_some hclaim, ?_⟩
    exact hbackoff firstOrder.plugin (decodeDelivery (firstOrder.row 0)) _ 0 retryReading call rfl
      haction houtcome hretry [] s' next t delivery' rfl (fun _ h => nomatch h) hnext hclaim hcycle
  · obtain ⟨s, label, s', between, t, next, t', hs, hstep, haction, hclaim, hbetween, -, hkept,
      hnext, hclosed⟩ := exists_first_reclaimed
    obtain ⟨hlease, -, -⟩ := lease_and_backoff reference hs hstep firstOrder.delivery.deliveryId
    have hpath : (system reference).Path s' [between] t :=
      TransitionSystem.path_cons.mpr ⟨t, hbetween, rfl⟩
    refine ⟨s, label, s', between, t, next, t', hs, hstep, Option.isSome_of_eq_some hclaim, hpath,
      hnext, hclosed, ?_⟩
    refine hlease firstOrder.plugin firstOrder.operator _ haction hclaim [between] t next t' hpath
      ?_ hnext hclosed
    intro other hother
    obtain rfl := List.mem_singleton.mp hother
    exact hkept

end OutboundWebhook
