import OutboundWebhook.History
import OutboundWebhook.Queue
import OutboundWebhook.Reference

/-!
# Fencing by attempt number, and the receipt under it

A worker holds a delivery by the triple of its id, cycle and attempt number. The triple is given
out once, it is used for one request and it is given up once. A worker that comes late changes
nothing.

The receipt of an attempt is a separate matter. `record_outcome` inserts it with
`ON CONFLICT DO NOTHING` and does not look at the number of rows inserted, and a claim puts a
`lease_expired` receipt under the current triple of every row of its batch while it moves only one
of them on. So a receipt can be there already when the fence still holds. That happens only when
the claim's timestamp is later than the worker's, and the worker's outcome then goes through
without its receipt.

## Main results

* `attempt_fencing` — triples, requests and outcomes; a stale outcome changes nothing
* `receipt_agrees` — row and receipt agree in every run in which no committed outcome meets a stored
  receipt
-/

namespace OutboundWebhook

variable {P : Platform}

/-! ### Stale outcomes -/

/-- **A stale outcome changes nothing.** It returns an error if the integers of the call fit their
columns, and panics before the first statement if they do not. -/
theorem stale_outcome {db : Db} {begins : Timestamptz} {call : OutcomeCall}
    (hstale : ∀ row ∈ db.deliveries,
      ¬row.isFenced begins call.deliveryId call.replayCount call.receipt.attempt) :
    (transact (call.run begins) db).2 = db ∧
      ((∃ error, (transact (call.run begins) db).1 = .error (.error error)) ↔
        FitsColumns call.replayCount call.receipt) := by
  by_cases hfits : FitsColumns call.replayCount call.receipt
  · obtain ⟨error, herr⟩ : ∃ error, call.run begins db = .error (.error error) :=
      recordOutcome_of_not_fenced hstale hfits
    rw [transact_of_eq_error herr]
    exact ⟨rfl, iff_of_true ⟨error, rfl⟩ hfits⟩
  · obtain ⟨message, herr⟩ : ∃ message, call.run begins db = .error (.panic message) :=
      recordOutcome_of_not_fits hfits
    rw [transact_of_eq_error herr]
    refine ⟨rfl, iff_of_false ?_ hfits⟩
    rintro ⟨error, heq⟩
    exact nomatch heq

/-- **Attempt-number fencing.** -/
theorem attempt_fencing (P : Platform) :
    (∀ (labels : List (Label P)) t, (system P).Run labels t → ∀ id,
      (claimsOf id labels).Nodup ∧ (leavingsOf id labels).Nodup ∧
      ∀ row, t.db.delivery id = some row →
        Numbered row.maxAttempts row.replayCount row.attempts (claimsOf id labels) ∧
        row.attempts ≤ row.maxAttempts ∧
        ∀ r, (((postsOf id labels).filter fun p => p.1 = r).length : ℤ) ≤ row.maxAttempts) ∧
    (∀ (db : Db) (begins : Timestamptz) (call : OutcomeCall),
      (∀ row, db.delivery call.deliveryId = some row →
        row.number ≠ call.number ∨ row.status ≠ .delivering ∨
          ∀ lease ∈ row.leaseExpiresAt, lease ≤ begins) →
      (transact (call.run begins) db).2 = db ∧
        ((∃ error, (transact (call.run begins) db).1 = .error (.error error)) ↔
          FitsColumns call.replayCount call.receipt)) := by
  refine ⟨fun labels t hrun id => ⟨claimsOf_nodup hrun id, leavingsOf_nodup hrun id, ?_⟩,
    fun db begins call hstale => stale_outcome ?_⟩
  · intro row hrow
    have hlife := Db.life_of_delivery hrow
    have hnumbered : Numbered row.maxAttempts row.replayCount row.attempts (claimsOf id labels) :=
      (claimsOf_numbered hrun id).2 _ hlife
    have hsound : row.Sound := ((reachable_inv hrun.reachable).sound id _ hlife).row
    refine ⟨hnumbered, hsound.attempts_le, ?_⟩
    intro r
    -- at most one request for each claim of the cycle
    have hnodup : (postsOf id labels).Nodup := by
      refine List.nodup_iff_count_le_one.mpr ?_
      intro number
      have hclaim := List.nodup_iff_count_le_one.mp (claimsOf_nodup hrun id) number
      exact (count_postsOf_le hrun id number).trans hclaim
    have hsubset : postsOf id labels ⊆ claimsOf id labels := by
      intro number hnumber
      have hcount := count_postsOf_le hrun id number
      have := List.count_pos_iff.mpr hnumber
      exact List.count_pos_iff.mp (by omega)
    have hle := ((hnodup.subperm hsubset).filter fun p => decide (p.1 = r)).length_le
    have hcycle := hnumbered.length_cycle_le (by have := hsound.maxAttempts; omega)
      hsound.attempts_le r
    omega
  · intro row hrow hfenced
    obtain ⟨hid, hnumber, hstatus, lease, hlease, hlt⟩ := DeliveryRow.isFenced_iff.mp hfenced
    rcases hstale row (hid ▸ Db.delivery_of_mem hrow) with hother | hother | hexpired
    · exact hother hnumber
    · exact hother hstatus
    · exact absurd hlt (not_lt.mpr (hexpired lease hlease))

/-- A response with a status beyond 32 bits, to an attempt whose lease has expired. -/
theorem stale_outcome_panics :
    ∃ s label t call message, (system reference).Reachable s ∧ (system reference).step s label t ∧
      label.observation.stored = some (.outcome call (.error (.panic message))) ∧
      ∃ row, s.db.delivery call.deliveryId = some row ∧
        ∃ lease, row.leaseExpiresAt = some lease ∧ lease ≤ label.begins := by
  obtain ⟨labels, s, hrun, -, hd, -, hp, hn⟩ := exists_first_sent
  have hrow : firstOrder.row 0 ∈ s.db.deliveries := Db.mem_of_singleton hd
  have hfinish : finishOutcome reference firstOrder.plugin.config
      (decodeDelivery (firstOrder.row 0)) (.ok ⟨2147483648, []⟩) 0 0
      = .ok ⟨firstFailed ⟨2147483648, []⟩ .deadLetter none, _⟩ := rfl
  obtain ⟨message, hcall⟩ : ∃ message,
      (firstFailed ⟨2147483648, []⟩ .deadLetter none).run 31000000 s.db
        = .error (.panic message) := by
    refine recordOutcome_of_not_fits ?_
    intro hfits
    exact absurd (hfits.2.2 2147483648 rfl) (by decide)
  obtain ⟨label, t, hstep, hstored, hbegins, -⟩ := @exists_finish reference s 31000000
    firstOrder.plugin _ 31000000 0 0 0 [] [] (.ok ⟨2147483648, []⟩) _ _ _ hfinish hp
    (transact_of_eq_error hcall) (by decide) (le_refl _) (by rw [hn]; decide)
  refine ⟨s, label, t, _, message, hrun.reachable, hstep, hstored, _, Db.delivery_of_mem hrow, _,
    rfl, ?_⟩
  rw [hbegins]
  decide

/-- The first order, delivered, and its outcome recorded once more. -/
theorem attempt_fencing_delivered :
    ∃ labels t row, ∃ call : OutcomeCall, (system reference).Run labels t ∧
      t.db.delivery call.deliveryId = some row ∧ row.number = (0, 1) ∧
      (claimsOf call.deliveryId labels).Nodup ∧ (leavingsOf call.deliveryId labels).Nodup ∧
      Numbered row.maxAttempts 0 1 (claimsOf call.deliveryId labels) ∧
      row.status ≠ .delivering ∧ (transact (call.run 2) t.db).2 = t.db ∧
      ∃ error, (transact (call.run 2) t.db).1 = .error (.error error) := by
  obtain ⟨labels, s, label, t, hrun, -, hstep, -, -, -, hdelivered, -⟩ := exists_first_delivered
  have hfencing := attempt_fencing reference
  obtain ⟨hclaims, hleavings, hrow⟩ :=
    hfencing.1 _ t (hrun.snoc hstep) firstOrder.delivery.deliveryId
  obtain ⟨hsame, herror⟩ := hfencing.2 t.db 2
    (deliveredOutcome reference (decodeDelivery (firstOrder.row 0)) [] 0) fun row hrow => by
      obtain rfl := Option.some.inj (hdelivered.symm.trans hrow)
      exact .inr (.inl (by decide))
  refine ⟨_, t, _, deliveredOutcome reference (decodeDelivery (firstOrder.row 0)) [] 0,
    hrun.snoc hstep, hdelivered, rfl, hclaims, hleavings, (hrow _ hdelivered).1, by decide, hsame,
    herror.mpr ⟨by decide, by decide, ?_⟩⟩
  intro status hstatus
  obtain rfl : 200 = status := Option.some.inj hstatus
  decide

/-! ### Row and receipt -/

/-- No outcome that is committed, its fence being passed, finds a receipt for its attempt. A call
that is refused may find one. -/
def NoReceiptYet (s : Sys P) (label : Label P) : Prop :=
  ∀ call, label.observation.stored = some (.outcome call (.ok ())) →
    (∃ row ∈ s.db.deliveries,
      row.isFenced label.begins call.deliveryId call.replayCount call.receipt.attempt) →
    s.db.receipt call.deliveryId call.replayCount call.receipt.attempt = none

/-- The receipt an outcome brings is stored as it is. -/
theorem receipt_of_outcome {s t : Sys P} {label : Label P} (hstep : Step s label t)
    (hfree : NoReceiptYet s label) {call : OutcomeCall}
    (hcall : label.observation.stored = some (.outcome call (.ok ()))) :
    t.db.receipt call.deliveryId call.replayCount call.receipt.attempt
      = some (call.receipt.toRow call.deliveryId call.replayCount) := by
  have hwrites := hstep.writes
  rw [hcall] at hwrites
  obtain ⟨hrun, -⟩ := hwrites.outcome_inv
  cases hbody : call.run label.begins s.db with
  | error e =>
    rw [transact_of_eq_error hbody, Prod.mk.injEq] at hrun
    exact nomatch hrun.1
  | ok result =>
    obtain ⟨⟨⟩, db'⟩ := result
    rw [transact_of_eq_ok hbody, Prod.mk.injEq] at hrun
    obtain ⟨-, rfl⟩ := hrun
    obtain ⟨-, hfenced, -, ha⟩ := recordOutcome_ok_inv hbody
    have hnone := Db.receipt_eq_none_iff.mp (hfree call hcall hfenced)
    rw [KeyedTable.insertNew_of_notMem hnone] at ha
    refine Db.receipt_eq_some_iff.mpr ⟨?_, rfl⟩
    rw [ha]
    simp

/-- A delivery that becomes delivered does so by an outcome that says so. -/
theorem Observed.delivered {begins : Timestamptz} {id : String} {stored : Option Stored}
    {l l' : Life} (h : Observed begins id stored l l') (hbefore : l.row.status ≠ .delivered)
    (hafter : l'.row.status = .delivered) :
    ∃ call, stored = some (.outcome call (.ok ())) ∧ call.deliveryId = id ∧
      call.receipt.outcome = "delivered" ∧ l'.row.number = call.number := by
  cases h with
  | still => exact absurd hafter hbefore
  | expired => exact absurd hafter hbefore
  | retired => exact nomatch hafter
  | claimed => exact nomatch hafter
  | reclaimed => exact nomatch hafter
  | @recorded call _ hid hfenced hqueued hretry hdelivered =>
    exact ⟨call, rfl, hid, hdelivered hafter, (DeliveryRow.isFenced_iff.mp hfenced).2.1⟩
  | replayed => exact nomatch hafter

/-- Every delivered row has the receipt of its delivery. -/
def Db.DeliveredReceipts (db : Db) : Prop :=
  ∀ row ∈ db.deliveries, row.status = .delivered →
    ∃ a, db.receipt row.deliveryId row.replayCount row.attempts = some a ∧ a.outcome = "delivered"

/-- A stored receipt stays. -/
theorem Db.Evolves.receipt {db db' : Db} (h : db.Evolves db') {id : String} {r n : ℤ}
    {a : AttemptRow} (ha : db.receipt id r n = some a) : db'.receipt id r n = some a := by
  obtain ⟨hmem, hkey⟩ := Db.receipt_eq_some_iff.mp ha
  have hid : a.deliveryId = id := congrArg Prod.fst hkey
  have hmem' : a ∈ db.receipts id := Db.mem_receipts.mpr ⟨hmem, hid⟩
  cases hl : db.life id with
  | none =>
    rw [Db.receipts_eq_nil_of_delivery_eq_none (Db.life_eq_none_iff.mp hl)] at hmem'
    exact nomatch hmem'
  | some l =>
    obtain ⟨l', hl', hevolves⟩ := h id l hl
    rw [(Db.life_eq_some_iff.mp hl).2] at hmem'
    have hnew := hevolves.receipts.subset hmem'
    rw [← (Db.life_eq_some_iff.mp hl').2] at hnew
    exact Db.receipt_eq_some_iff.mpr ⟨(Db.mem_receipts.mp hnew).1, hkey⟩

theorem DeliveredReceipts.step {s t : Sys P} {label : Label P} (hinv : s.Inv)
    (h : s.db.DeliveredReceipts) (hfree : NoReceiptYet s label) (hstep : Step s label t) :
    t.db.DeliveredReceipts := by
  intro row' hrow' hdelivered
  have hrefines := hstep.writes.refines hinv
  have hl' := Db.life_of_mem hrow'
  cases hl : s.db.life row'.deliveryId with
  | none =>
    obtain ⟨plugin, request, delivery, begins, -, heq⟩ := hrefines.born _ _ hl hl'
    rw [show row' = delivery.toRow begins from congrArg Life.row heq] at hdelivered
    exact nomatch hdelivered
  | some l =>
    obtain ⟨l₁, hl₁, hobserved⟩ := hrefines.moves _ l hl
    rw [hl', Option.some.injEq] at hl₁
    subst hl₁
    by_cases hbefore : l.row.status = .delivered
    · -- it was delivered before
      have hsame : (⟨row', t.db.receipts row'.deliveryId⟩ : Life) = l := by
        rcases hobserved.step with heq | hmove
        · exact heq
        · exact absurd hbefore hmove.not_delivered
      have hrow : row' = l.row := congrArg Life.row hsame
      obtain ⟨a, ha, houtcome⟩ := h l.row (Db.mem_of_life hl) hbefore
      rw [hrow]
      exact ⟨a, hrefines.evolves.receipt ha, houtcome⟩
    · obtain ⟨call, hcall, hid, houtcome, hnumber⟩ := hobserved.delivered hbefore hdelivered
      obtain ⟨hcycle, hattempts⟩ := Prod.mk.inj hnumber
      have hreceipt := receipt_of_outcome hstep hfree hcall
      rw [hid, ← show row'.replayCount = call.replayCount from hcycle,
        ← show row'.attempts = call.receipt.attempt from hattempts] at hreceipt
      exact ⟨_, hreceipt, houtcome⟩

/-- **Row and receipt agree** in every run in which no committed outcome meets a stored
receipt. -/
theorem receipt_agrees (P : Platform) :
    (∀ s label t, ((system P).restrict NoReceiptYet).Reachable s →
      ((system P).restrict NoReceiptYet).step s label t →
      ∀ call, label.observation.stored = some (.outcome call (.ok ())) →
        t.db.receipt call.deliveryId call.replayCount call.receipt.attempt
          = some (call.receipt.toRow call.deliveryId call.replayCount)) ∧
    (∀ t, ((system P).restrict NoReceiptYet).Reachable t →
      ∀ row ∈ t.db.deliveries, row.status = .delivered →
        ∃ a, t.db.receipt row.deliveryId row.replayCount row.attempts = some a ∧
          a.outcome = "delivered") ∧
    (∀ s labels t, ((system P).restrict NoReceiptYet).Reachable s →
      ((system P).restrict NoReceiptYet).Path s labels t →
      ∀ id r n a, s.db.receipt id r n = some a → a.outcome = "lease_expired" →
        ∀ row, t.db.delivery id = some row → row.number = (r, n) → row.status ≠ .delivered) := by
  have hdelivered : ∀ t, ((system P).restrict NoReceiptYet).Reachable t →
      t.db.DeliveredReceipts := by
    intro t ht
    refine ht.induction (P := fun t => t.db.DeliveredReceipts) ?_ fun s label t hs h hstep =>
      DeliveredReceipts.step (reachable_inv hs.of_restrict) h hstep.1 hstep.2
    rintro s ⟨hdb, -⟩ row hrow
    rw [hdb] at hrow
    exact nomatch hrow
  refine ⟨fun s label t _ hstep call hcall => receipt_of_outcome hstep.2 hstep.1 hcall,
    fun t ht => hdelivered t ht, fun s labels t hs hpath id r n a ha hexpired row hrow hnumber
      hstatus => ?_⟩
  obtain ⟨hmem, hid⟩ := Db.delivery_eq_some_iff.mp hrow
  obtain ⟨b, hb, houtcome⟩ := hdelivered t (hs.path hpath) row hmem hstatus
  have hkept := (path_evolves hs.of_restrict hpath.of_restrict).receipt ha
  obtain ⟨hcycle, hattempts⟩ := Prod.mk.inj hnumber
  rw [hid, hcycle, hattempts, hkept, Option.some.injEq] at hb
  rw [← hb, hexpired] at houtcome
  exact absurd houtcome (by decide)

/-- Both orders have expired. The first one is claimed again, and the second one is receipted. -/
theorem exists_second_expired :
    ∃ s, (system reference).Reachable s ∧ secondOrder.row 2000000 ∈ s.db.deliveries ∧
      leaseExpiredReceipt 33000000 (secondOrder.row 2000000) ∈ s.db.attempts ∧
      (∃ before after, s.pending = before ++
        ⟨.posted secondOrder.plugin (decodeDelivery (secondOrder.row 2000000)), 3000000⟩ :: after) ∧
      s.now = 33000000 := by
  obtain ⟨s, hs, hd, ha, hp, hn⟩ := exists_two_claimed
  have hsecond : secondOrder.row 2000000 ∈ s.db.deliveries := by
    rw [hd]
    exact List.mem_cons_of_mem _ (List.mem_singleton.mpr rfl)
  have hsecondExpired : secondOrder.row 2000000 ∈ s.db.expired 33000000 [] "webhooks" :=
    Db.mem_expired_of_pair hd hsecond (by decide)
  -- the first order was available a second earlier
  have hcandidate : s.db.candidate 33000000 [] "webhooks" = some (firstOrder.row 1000000) :=
    Db.candidate_of_pair hd rfl (by decide) (by decide)
      (Prod.Lex.toLex_le_toLex.mpr (.inl (by decide)))
  obtain ⟨t, hstep, hd', ha', hp', hn'⟩ := @exists_claim reference s 33000000 (reachable_inv hs)
    firstOrder.plugin firstOrder.operator firstOrder.prepared 33000000 _ rfl rfl hcandidate
    (le_refl _) (by rw [hn]; decide)
  refine ⟨t, hs.step hstep, ?_, ?_, ?_, hn'⟩
  · have hsame : s.db.afterClaim 33000000 [] "webhooks" 30 (secondOrder.row 2000000)
        = secondOrder.row 2000000 := by
      refine Db.afterClaim_of_other hsecond (fun _ => by decide) ?_
      intro hc
      have heq := congrArg DeliveryRow.eventId (Option.some.inj (hcandidate.symm.trans hc))
      exact absurd heq (by decide)
    rw [hd', ← hsame]
    exact List.mem_map_of_mem hsecond
  · have hfiltered : leaseExpiredReceipt 33000000 (secondOrder.row 2000000)
        ∈ ((s.db.expired 33000000 [] "webhooks").map (leaseExpiredReceipt 33000000)).filter
          fun a => a.key ∉ ([] : List AttemptRow).map AttemptRow.key :=
      List.mem_filter.mpr ⟨List.mem_map_of_mem hsecondExpired, by simp⟩
    rw [ha', ha]
    rw [KeyedTable.insertAll_eq_append_filter Db.nodup_key_expired]
    exact List.mem_append_right _ hfiltered
  · rw [hp', hp]
    exact ⟨[_], [_], rfl⟩

/-- **A delivered row without its receipt.** The outcome of the second order began before its lease
expired and takes effect after the receipt of the expiry. -/
theorem outcome_without_receipt :
    ∃ s label t call, (system reference).Reachable s ∧ (system reference).step s label t ∧
      label.observation.stored = some (.outcome call (.ok ())) ∧
      t.db.receipt call.deliveryId call.replayCount call.receipt.attempt
        ≠ some (call.receipt.toRow call.deliveryId call.replayCount) ∧
      ∃ row a, t.db.delivery call.deliveryId = some row ∧ row.status = .delivered ∧
        s.db.receipt row.deliveryId row.replayCount row.attempts = some a ∧
        t.db.receipt row.deliveryId row.replayCount row.attempts = some a ∧
        a.outcome = "lease_expired" := by
  obtain ⟨s, hs, hrow, hreceipt, ⟨before, after, hp⟩, hn⟩ := exists_second_expired
  obtain ⟨label, t, hstep, hstored, -, -, hdelivered, hattempts, -⟩ := @exists_delivered reference s
    33000000 secondOrder 2000000 3000000 31900000 before after hp hrow [] 0 (by decide) (by decide)
    (by decide) (le_of_eq hn)
  have hkept : t.db.attempts = s.db.attempts :=
    hattempts.trans (KeyedTable.insertNew_of_mem (List.mem_map.mpr ⟨_, hreceipt, rfl⟩))
  have hfound : s.db.receipt secondOrder.delivery.deliveryId 0 1
      = some (leaseExpiredReceipt 33000000 (secondOrder.row 2000000)) :=
    Db.receipt_eq_some_iff.mpr ⟨hreceipt, rfl⟩
  have hfound' : t.db.receipt secondOrder.delivery.deliveryId 0 1
      = some (leaseExpiredReceipt 33000000 (secondOrder.row 2000000)) :=
    Db.receipt_eq_some_iff.mpr ⟨hkept ▸ hreceipt, rfl⟩
  refine ⟨s, label, t, _, hs, hstep, hstored, ?_, _, _, hdelivered, rfl, hfound, hfound',
    rfl⟩
  intro heq
  have hsame := congrArg AttemptRow.outcome (Option.some.inj (hfound'.symm.trans heq))
  exact absurd hsame (by decide)

/-- The first order, delivered. -/
theorem receipt_agrees_delivered :
    ∃ s label t call row a, ((system reference).restrict NoReceiptYet).Reachable s ∧
      ((system reference).restrict NoReceiptYet).step s label t ∧
      label.observation.stored = some (.outcome call (.ok ())) ∧
      t.db.receipt call.deliveryId call.replayCount call.receipt.attempt
        = some (call.receipt.toRow call.deliveryId call.replayCount) ∧
      row ∈ t.db.deliveries ∧ row.status = .delivered ∧
      t.db.receipt row.deliveryId row.replayCount row.attempts = some a ∧
      a.outcome = "delivered" := by
  obtain ⟨labels, s, label, t, ⟨s₀, hinit, hpath⟩, hquiet, hstep, -, ha, hstored, hdelivered, -⟩ :=
    exists_first_delivered
  have hs : ((system reference).restrict NoReceiptYet).Reachable s :=
    ⟨labels, s₀, hinit, hpath.restrict fun l hl u call hcall _ =>
      absurd hcall (hquiet l hl call (.ok ()))⟩
  have hfree : NoReceiptYet s label := by
    intro call _ _
    rw [Db.receipt, ha]
    rfl
  have hagrees := receipt_agrees reference
  obtain ⟨hrow, -⟩ := Db.delivery_eq_some_iff.mp hdelivered
  obtain ⟨a, hreceipt, houtcome⟩ := hagrees.2.1 t (hs.step ⟨hfree, hstep⟩) _ hrow rfl
  exact ⟨s, label, t, _, _, a, hs, ⟨hfree, hstep⟩, hstored,
    hagrees.1 s label t hs ⟨hfree, hstep⟩ _ hstored, hrow, rfl, hreceipt, houtcome⟩

end OutboundWebhook
