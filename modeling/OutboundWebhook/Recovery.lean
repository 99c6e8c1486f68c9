import OutboundWebhook.Settlement
import OutboundWebhook.Identity

/-!
# No dead end

Whatever has happened to a delivery, it can still be delivered: its worker may have stopped, its
attempts may be used up, it may be dead-lettered, and any number of other deliveries may be in
front of it. An operator who waits for the leases, dispatches, replays if it must be and is then
answered with status 200 gets it there. The calls on the way are all the operator's own
(`Action.ByOperator`). What is needed is an active instance on its queue with its endpoint, an
allowed caller, a clock that can be formatted, a key the code accepts and, if the cycle has to be
started again, a cycle that is left.

## Main results

* `exists_worked` — a row whose time has come is reached, behind any backlog
* `deliverable` — a delivery that is not at its last cycle can still be delivered
-/

namespace OutboundWebhook

variable {P : Platform} {s : Sys P} {t : Timestamptz}

section Operator

variable {plugin : OutboundWebhookPlugin P} {prepared : PreparedWebhook P plugin.config}
  {caller : Option String} {row : DeliveryRow}

/-- The stretches of the operator's own calls: dispatches by the instance, of which only those that
have claimed the delivery are continued, and replays of the delivery. -/
inductive Action.ByOperator (plugin : OutboundWebhookPlugin P) (caller : Option String)
    (deliveryId : String) : Action P → Prop
  | dispatch : ByOperator plugin caller deliveryId (.start (.dispatch plugin caller))
  | claimed {prepared : PreparedWebhook P plugin.config} {delivery : DeliveryRecord}
      (hid : delivery.deliveryId = deliveryId) (input : Input) :
      ByOperator plugin caller deliveryId (.resume (.claimed plugin prepared delivery) input)
  | posted {delivery : DeliveryRecord} (hid : delivery.deliveryId = deliveryId) (input : Input) :
      ByOperator plugin caller deliveryId (.resume (.posted plugin delivery) input)
  | replay : ByOperator plugin caller deliveryId (.start (.replay plugin caller deliveryId))
  | replaying {delivery : DeliveryRecord} (hid : delivery.deliveryId = deliveryId)
      (input : Input) : ByOperator plugin caller deliveryId (.resume (.replaying delivery) input)
  | replayable (input : Input) :
      ByOperator plugin caller deliveryId (.resume (.replayable deliveryId) input)

/-- The operator's own calls lead from the first state to the second. -/
def Operated (plugin : OutboundWebhookPlugin P) (caller : Option String) (deliveryId : String)
    (s s' : Sys P) : Prop :=
  ∃ labels, (system P).Path s labels s' ∧
    ∀ label ∈ labels, label.action.ByOperator plugin caller deliveryId

section Operated

variable {deliveryId : String} {s' s'' : Sys P}

theorem Operated.refl (s : Sys P) : Operated plugin caller deliveryId s s :=
  ⟨[], rfl, List.forall_mem_nil _⟩

theorem Operated.trans (h : Operated plugin caller deliveryId s s')
    (h' : Operated plugin caller deliveryId s' s'') : Operated plugin caller deliveryId s s'' := by
  obtain ⟨labels, hpath, hcalls⟩ := h
  obtain ⟨labels', hpath', hcalls'⟩ := h'
  exact ⟨labels ++ labels', hpath.trans hpath', List.forall_mem_append.mpr ⟨hcalls, hcalls'⟩⟩

theorem Operated.of_step {label : Label P} (hstep : Step s label s')
    (hcall : label.action.ByOperator plugin caller deliveryId) :
    Operated plugin caller deliveryId s s' := by
  refine ⟨[label], TransitionSystem.path_cons.mpr ⟨s', hstep, rfl⟩, ?_⟩
  exact List.forall_mem_singleton.mpr hcall

theorem Operated.reachable (h : Operated plugin caller deliveryId s s')
    (hs : (system P).Reachable s) : (system P).Reachable s' := by
  obtain ⟨labels, hpath, -⟩ := h
  exact hs.path hpath

end Operated

/-- The row is claimed, and its worker goes on. -/
structure Claimed (prepared : PreparedWebhook P plugin.config) (row : DeliveryRow)
    (t : Timestamptz) (s : Sys P) : Prop where
  mem : row.assign (claimAssignment t plugin.config.leaseSeconds row) ∈ s.db.deliveries
  pending : ∃ before, s.pending = before ++ [⟨.claimed plugin prepared
    (decodeDelivery (row.assign (claimAssignment t plugin.config.leaseSeconds row))), t⟩]
  now : s.now = t

/-- The row is claimed if it has an attempt left, and retired if it has none. -/
def Worked (prepared : PreparedWebhook P plugin.config) (row : DeliveryRow) (t : Timestamptz)
    (s : Sys P) : Prop :=
  row.attempts < row.maxAttempts ∧ Claimed prepared row t s ∨
    row.maxAttempts ≤ row.attempts ∧ row.assign (retireAssignment t row) ∈ s.db.deliveries

/-- One dispatch: the row is reached, or it is as before and the queue is lighter. -/
theorem exists_worked_or (hactive : plugin.active = some prepared)
    (hallowed : plugin.config.adminAllowed caller) (hinv : s.Inv) (hrow : row ∈ s.db.deliveries)
    (hdue : row.isDue t plugin.config.queueName ∨ row.isExhausted t plugin.config.queueName)
    (hnow : s.now ≤ t) :
    ∃ s', Operated plugin caller row.deliveryId s s' ∧ s'.now = t ∧
      (Worked prepared row t s' ∨ row ∈ s'.db.deliveries ∧
        s'.db.weight plugin.config.queueName < s.db.weight plugin.config.queueName) := by
  by_cases hcandidate : s.db.candidate t [] plugin.config.queueName = some row
  · obtain ⟨s', hstep, hd, -, hp, hn⟩ :=
      exists_claim hinv hallowed hactive hcandidate (le_refl t) hnow
    have hleft := (Db.candidate_eq_some hcandidate).2.2.1
    refine ⟨s', .of_step hstep .dispatch, hn, .inl (.inl ⟨hleft, ?_, ⟨_, hp⟩, hn⟩)⟩
    rw [hd, ← Db.afterClaim_of_candidate hcandidate]
    exact List.mem_map_of_mem hrow
  · have hsome : plugin.active.isSome := by
      rw [hactive]
      rfl
    have hstep : Step s _ _ := @Step.start P s t t [] (.dispatch plugin caller) (le_refl t) hnow
    have hd := dispatchDelivery_db hinv hsome hallowed t fun row hrow hqueue =>
      (List.not_mem_nil : row.deliveryId ∉ [])
    have hmem := List.mem_map_of_mem
      (f := s.db.afterClaim t [] plugin.config.queueName plugin.config.leaseSeconds) hrow
    rw [← hd] at hmem
    refine ⟨_, .of_step hstep .dispatch, rfl, ?_⟩
    rcases Db.afterClaim_cases t [] plugin.config.queueName plugin.config.leaseSeconds hrow with
      ⟨hclaimed, -⟩ | ⟨-, -, hlast, heq⟩ | ⟨-, -, heq⟩
    · exact absurd hclaimed hcandidate
    · rw [heq] at hmem
      exact .inl (.inr ⟨hlast, hmem⟩)
    · rw [heq] at hmem
      exact .inr ⟨hmem, Db.weight_map_lt hd (fun row hrow => Db.weight_afterClaim_le hrow)
        (Db.exists_lighter plugin.config.leaseSeconds hrow hdue)⟩

/-- **A row whose time has come is reached**, behind any backlog. -/
theorem exists_worked (hactive : plugin.active = some prepared)
    (hallowed : plugin.config.adminAllowed caller) (hs : (system P).Reachable s)
    (hrow : row ∈ s.db.deliveries)
    (hdue : row.isDue t plugin.config.queueName ∨ row.isExhausted t plugin.config.queueName)
    (hnow : s.now ≤ t) :
    ∃ s', Operated plugin caller row.deliveryId s s' ∧ s'.now = t ∧ Worked prepared row t s' := by
  induction hn : s.db.weight plugin.config.queueName using Nat.strong_induction_on
    generalizing s with
  | h n ih =>
    obtain ⟨s₁, hcalls, hn₁, hworked | ⟨hrow₁, hlt⟩⟩ :=
      exists_worked_or hactive hallowed (reachable_inv hs) hrow hdue hnow
    · exact ⟨s₁, hcalls, hn₁, hworked⟩
    · obtain ⟨s', hcalls', hn', hworked⟩ :=
        ih _ (hn ▸ hlt) (hcalls.reachable hs) hrow₁ hn₁.le rfl
      exact ⟨s', hcalls.trans hcalls', hn', hworked⟩

/-- The row has been delivered, whatever its receipt says of the answer. -/
def Sys.Delivered (s : Sys P) (deliveryId : String) : Prop :=
  ∃ row, s.db.delivery deliveryId = some row ∧ row.status = .delivered

/-- **A claimed delivery can be delivered.** -/
theorem exists_delivered_of_claimed {clock : OffsetDateTime}
    (hs : (system P).Reachable s) (hclaimed : Claimed prepared row t s)
    (hsame : endpointDiffers prepared (decodeDelivery row) = false)
    (hsigned : ∃ request, signedRequest prepared (decodeDelivery row) clock = .ok request) :
    ∃ s', Operated plugin caller row.deliveryId s s' ∧ s'.Delivered row.deliveryId := by
  obtain ⟨hrow, ⟨before, hpending⟩, hn⟩ := hclaimed
  obtain ⟨request, hrequest⟩ := hsigned
  set claimed := row.assign (claimAssignment t plugin.config.leaseSeconds row) with hclaimed
  have hsound : claimed.Sound := ((reachable_inv hs).sound _ _ (Db.life_of_mem hrow)).row
  obtain ⟨s₁, hstep₁, hdb, hp₁, hn₁⟩ :=
    exists_post hpending hsame hrequest (le_refl t) hn.le
  have hcheck : ((deliveredOutcome P (decodeDelivery claimed) [] clock).receipt.toRow
      claimed.deliveryId claimed.replayCount).violation = none := by
    have hstarted := hsound.started (.inl rfl)
    have hmax := hsound.maxAttempts
    refine AttemptRow.violation_eq_none_iff.mpr ⟨⟨hstarted.1, hstarted.2.trans hmax.2⟩, ?_⟩
    intro status hstatus
    obtain rfl : 200 = status := Option.some.inj hstatus
    decide
  have hlease : t < t + seconds plugin.config.leaseSeconds := by
    have hpos : 0 < plugin.config.leaseSeconds * 1000000 := by
      have := plugin.valid.leaseSeconds
      omega
    exact Int.lt_add_of_pos_right t hpos
  have hfenced : claimed.isFenced t claimed.deliveryId claimed.replayCount claimed.attempts :=
    DeliveryRow.isFenced_iff.mpr ⟨rfl, rfl, rfl, _, rfl, hlease⟩
  have hp₂ : s₁.pending = before ++ [] ++ ⟨.posted plugin (decodeDelivery claimed), t⟩ :: [] := hp₁
  obtain ⟨label, s₂, hstep₂, -, haction, -, hd, -⟩ := exists_recorded
    (finishOutcome_delivered plugin.config (decodeDelivery claimed) [] clock clock) hp₂
    (fitsColumns_of_check hsound.replayCount hcheck) hcheck (hdb ▸ hrow) hfenced (le_refl t)
    (le_refl t) hn₁.le
  refine ⟨s₂, (Operated.of_step hstep₁ (.claimed rfl _)).trans (.of_step hstep₂ ?_), ?_⟩
  · rw [haction]
    exact .posted rfl _
  have hdelivery : s₁.db.delivery claimed.deliveryId = some claimed :=
    Db.delivery_of_mem (hdb ▸ hrow)
  refine ⟨claimed.assign (outcomeAssignment t .delivered none claimed), ?_, rfl⟩
  have hafter := Db.delivery_of_map hd (DeliveryRow.updated_deliveryId _ _) claimed.deliveryId
  rw [hdelivery, Option.map_some, DeliveryRow.updated] at hafter
  exact hafter.trans (congrArg some (if_pos hfenced))

/-- The id of a stored delivery passes the check of an admin call. -/
theorem Sys.Inv.validDeliveryId (hinv : s.Inv) (hrow : row ∈ s.db.deliveries) :
    OutboundWebhook.validDeliveryId row.deliveryId := by
  obtain ⟨plugin, request, delivery, hnew, hcontent⟩ :=
    hinv.authentic _ _ (Db.life_of_mem hrow)
  have hid : row.deliveryId = delivery.deliveryId := congrArg Content.deliveryId hcontent
  rw [hid, hnew.deliveryId]
  exact validDeliveryId_stableDeliveryId _ _

/-- **A dead-lettered delivery can be replayed**, while there is a cycle left. -/
theorem exists_replayed (hactive : plugin.active = some prepared)
    (hallowed : plugin.config.adminAllowed caller) (hs : (system P).Reachable s)
    (hrow : row ∈ s.db.deliveries) (hdead : row.status = .deadLetter)
    (hcycles : row.replayCount < 1000000) (hnow : s.now ≤ t) :
    ∃ s', Operated plugin caller row.deliveryId s s' ∧ s'.now = t ∧
      row.assign (replayAssignment t row) ∈ s'.db.deliveries := by
  obtain ⟨read, s₁, hstep₁, hread, hdb₁, hp₁, hn₁⟩ := exists_replaying hallowed hactive
    ((reachable_inv hs).validDeliveryId hrow) (Db.delivery_of_mem hrow) hnow
  obtain ⟨found, s₂, hstep₂, hfound, hdb₂, hp₂, hn₂⟩ :=
    exists_replayable hp₁ hdead (le_refl t) hn₁.le
  obtain ⟨stored, s₃, hstep₃, hstored, -, hdb₃, -, hn₃⟩ :=
    exists_replay_stored hp₂ (le_refl t) hn₂.le
  have hcalls : Operated plugin caller row.deliveryId s s₁ :=
    .of_step hstep₁ (by rw [hread]; exact .replay)
  have hid : (decodeDelivery row).deliveryId = row.deliveryId := rfl
  have hcalls' : Operated plugin caller row.deliveryId s₁ s₂ :=
    .of_step hstep₂ (by rw [hfound]; exact .replaying hid _)
  have hcalls'' : Operated plugin caller row.deliveryId s₂ s₃ :=
    .of_step hstep₃ (by rw [hstored]; exact .replayable _)
  refine ⟨s₃, hcalls.trans (hcalls'.trans hcalls''), hn₃, ?_⟩
  · have hreplayable : row.isReplayable row.deliveryId :=
      DeliveryRow.isReplayable_iff.mpr ⟨rfl, hdead, hcycles⟩
    obtain ⟨db', hok, hd, -⟩ := beginReplay_eq_ok t row.deliveryId s₂.db
    have hafter : s₃.db = db' := by
      rw [hdb₃]
      exact congrArg Prod.snd (transact_of_eq_ok hok)
    have hupdated : row.updated (DeliveryRow.isReplayable row.deliveryId) (replayAssignment t)
        = row.assign (replayAssignment t row) := if_pos hreplayable
    rw [hafter, hd, ← hupdated, hdb₂, hdb₁]
    exact List.mem_map_of_mem hrow

/-! ### Getting there -/

/-- What the operator has: an active instance on the queue of the row with its endpoint, the right
to call it, and a clock and a key that a request can be signed with. -/
structure Equipped (plugin : OutboundWebhookPlugin P) (prepared : PreparedWebhook P plugin.config)
    (caller : Option String) (clock : OffsetDateTime) (row : DeliveryRow) : Prop where
  active : plugin.active = some prepared
  allowed : plugin.config.adminAllowed caller
  queueName : plugin.config.queueName = row.queueName
  endpoint : endpointDiffers prepared (decodeDelivery row) = false
  signed : ∃ request, signedRequest prepared (decodeDelivery row) clock = .ok request

theorem Equipped.assign {clock : OffsetDateTime} (h : Equipped plugin prepared caller clock row)
    (a : Assignment) : Equipped plugin prepared caller clock (row.assign a) :=
  ⟨h.active, h.allowed, h.queueName, h.endpoint, h.signed⟩

/-- An unsettled delivery is claimed or retired in time. -/
theorem exists_worked_of_unsettled {clock : OffsetDateTime}
    (h : Equipped plugin prepared caller clock row) (hs : (system P).Reachable s)
    (hrow : row ∈ s.db.deliveries) (hsettled : ¬row.Settled) :
    ∃ t s', Operated plugin caller row.deliveryId s s' ∧ s'.now = t ∧ Worked prepared row t s' := by
  obtain ⟨t, hnow, htime⟩ := s.db.exists_time s.now
  have hsound : row.Sound := ((reachable_inv hs).sound _ _ (Db.life_of_mem hrow)).row
  obtain ⟨havailable, hexpired⟩ := htime row hrow
  have hdue := hsound.due_or_exhausted havailable hexpired (fun hs => hsettled (.inl hs))
    fun hs => hsettled (.inr hs)
  rw [← h.queueName] at hdue
  exact ⟨t, exists_worked h.active h.allowed hs hrow hdue hnow⟩

/-- While there is an attempt left, no replay is needed. -/
theorem exists_delivered_of_left {clock : OffsetDateTime}
    (h : Equipped plugin prepared caller clock row) (hs : (system P).Reachable s)
    (hrow : row ∈ s.db.deliveries) (hsettled : ¬row.Settled)
    (hleft : row.attempts < row.maxAttempts) :
    ∃ s', Operated plugin caller row.deliveryId s s' ∧ s'.Delivered row.deliveryId := by
  obtain ⟨t, s₁, hcalls, -, ⟨-, hclaimed⟩ | ⟨hlast, -⟩⟩ :=
    exists_worked_of_unsettled h hs hrow hsettled
  · obtain ⟨s₂, hcalls', hdelivered⟩ :=
      exists_delivered_of_claimed (hcalls.reachable hs) hclaimed h.endpoint h.signed
    exact ⟨s₂, hcalls.trans hcalls', hdelivered⟩
  · omega

/-- A replay gives a dead-lettered delivery its attempts back. -/
theorem exists_delivered_of_dead {clock : OffsetDateTime}
    (h : Equipped plugin prepared caller clock row) (hs : (system P).Reachable s)
    (hrow : row ∈ s.db.deliveries) (hdead : row.status = .deadLetter)
    (hcycles : row.replayCount < 1000000) :
    ∃ s', Operated plugin caller row.deliveryId s s' ∧ s'.Delivered row.deliveryId := by
  have hsound : row.Sound := ((reachable_inv hs).sound _ _ (Db.life_of_mem hrow)).row
  have hmax := hsound.maxAttempts
  obtain ⟨s₁, hcalls, -, hrow₁⟩ :=
    exists_replayed h.active h.allowed hs hrow hdead hcycles (le_refl s.now)
  have hleft : 0 < row.maxAttempts := by omega
  obtain ⟨s₂, hcalls', hdelivered⟩ := exists_delivered_of_left (h.assign _)
    (hcalls.reachable hs) hrow₁ (DeliveryRow.not_settled_of_waiting (.inl rfl)) hleft
  exact ⟨s₂, hcalls.trans hcalls', hdelivered⟩

end Operator

/-- **No dead end.** A delivery that is not at its last cycle can still be delivered, from every
reachable state, by calls of `plugin` that `caller` makes. -/
theorem deliverable (P : Platform) {s : Sys P} (hs : (system P).Reachable s) {row : DeliveryRow}
    (hrow : row ∈ s.db.deliveries) (hcycles : row.replayCount < 1000000)
    {plugin : OutboundWebhookPlugin P} {prepared : PreparedWebhook P plugin.config}
    {caller : Option String} {clock : OffsetDateTime}
    (h : Equipped plugin prepared caller clock row) :
    ∃ labels t row', (system P).Path s labels t ∧
      (∀ label ∈ labels, label.action.ByOperator plugin caller row.deliveryId) ∧
      t.db.delivery row.deliveryId = some row' ∧ row'.status = .delivered ∧
      row'.content = row.content := by
  have hdelivered : ∃ t, Operated plugin caller row.deliveryId s t ∧
      t.Delivered row.deliveryId := by
    by_cases hdead : row.status = .deadLetter
    · exact exists_delivered_of_dead h hs hrow hdead hcycles
    · by_cases hdone : row.status = .delivered
      · exact ⟨s, .refl s, row, Db.delivery_of_mem hrow, hdone⟩
      · have hsettled : ¬row.Settled := not_or.mpr ⟨hdone, hdead⟩
        obtain ⟨t, s₁, hcalls, -, ⟨-, hclaimed⟩ | ⟨-, hrow₁⟩⟩ :=
          exists_worked_of_unsettled h hs hrow hsettled
        · obtain ⟨s₂, hcalls', hdelivered⟩ :=
            exists_delivered_of_claimed (hcalls.reachable hs) hclaimed h.endpoint h.signed
          exact ⟨s₂, hcalls.trans hcalls', hdelivered⟩
        · obtain ⟨s₂, hcalls', hdelivered⟩ :=
            exists_delivered_of_dead (h.assign _) (hcalls.reachable hs) hrow₁ rfl hcycles
          exact ⟨s₂, hcalls.trans hcalls', hdelivered⟩
  obtain ⟨t, ⟨labels, hpath, hcalls⟩, row', hrow', hstatus⟩ := hdelivered
  obtain ⟨l, hl, hevolves⟩ := path_evolves hs hpath _ _ (Db.life_of_mem hrow)
  have hsame := (Db.life_eq_some_iff.mp hl).1
  rw [hrow', Option.some.injEq] at hsame
  exact ⟨labels, t, row', hpath, hcalls, hrow', hstatus, hsame ▸ hevolves.content⟩

/-- The first order was sent, and its worker is never heard of again. -/
theorem deliverable_abandoned :
    ∃ s labels t row', (system reference).Reachable s ∧ s.db.deliveries = [firstOrder.row 0] ∧
      (system reference).Path s labels t ∧
      (∀ label ∈ labels, label.action.ByOperator firstOrder.plugin firstOrder.operator
        firstOrder.delivery.deliveryId) ∧
      t.db.delivery firstOrder.delivery.deliveryId = some row' ∧ row'.status = .delivered := by
  obtain ⟨before, s, hrun, -, hd, -⟩ := exists_first_sent
  have hequipped : Equipped firstOrder.plugin firstOrder.prepared firstOrder.operator 0
      (firstOrder.row 0) :=
    ⟨rfl, rfl, rfl, firstOrder.endpointDiffers_eq_false _ rfl, exists_signedRequest 2 _⟩
  obtain ⟨labels, t, row', hpath, hcalls, hrow', hstatus, -⟩ :=
    deliverable reference hrun.reachable (Db.mem_of_singleton hd) (by decide) hequipped
  exact ⟨s, labels, t, row', hrun.reachable, hd, hpath, hcalls, hrow', hstatus⟩

end OutboundWebhook
