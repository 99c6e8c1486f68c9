import OutboundWebhook.Reference

/-!
# The state machine and the ledger

Two invariants of every reachable state, and what every step and every run keeps of a delivery.
Both are read off the lives of `Lifecycle` through the refinement: the first is the row's half of
`Life.Sound`, the second the receipts' half.

## Main results

* `delivery_state_machine` — status, attempt number, lease and bounds of every row; the edges of
  the status; no `CHECK` of the deliveries is ever violated
* `attempt_ledger` — the receipts of a delivery are complete, gap-free and append-only
-/

namespace OutboundWebhook

variable {P : Platform}

/-! ### The state machine -/

/-- The constraints of `webhook_deliveries`. -/
def deliveryChecks : List String :=
  ["webhook_delivery_status_valid", "webhook_delivery_attempts_valid",
    "webhook_delivery_replay_valid", "webhook_delivery_lease_valid"]

/-- What a transaction has failed with. -/
def Stored.failure : Stored → Option (Abort StoreError)
  | .enqueue _ (.error e) => some e
  | .claim _ (.error e) => some e
  | .outcome _ (.error e) => some e
  | .replay _ (.error e) => some e
  | _ => none

/-- An edge of the status. Replay is the one that opens a cycle. -/
def DeliveryRow.Edge (row row' : DeliveryRow) : Prop :=
  row.status.mayBecome row'.status ∧
    row'.replayCount = row.replayCount + if row.status = .deadLetter then 1 else 0

theorem Life.Step.edge {l l' : Life} (h : Step l l') : l.row.Edge l'.row := by
  refine ⟨h.mayBecome, ?_⟩
  cases h with
  | expire now hstatus => simp [hstatus]
  | retire now hstatus => simp [hstatus, retireAssignment, DeliveryRow.current]
  | claim now leaseSeconds hstatus =>
    rcases hstatus with hstatus | hstatus <;> simp [hstatus, claimAssignment, DeliveryRow.current]
  | reclaim now leaseSeconds hstatus => simp [hstatus, claimAssignment, DeliveryRow.current]
  | outcome now receipt status nextAvailableAt hnumber hstatus =>
    simp [hstatus, outcomeAssignment, DeliveryRow.current]
  | replay now hstatus => simp [hstatus, replayAssignment]

/-- No operation of the service violates a `CHECK` of the deliveries. -/
theorem Writes.not_check {s : Sys P} (hinv : s.Inv) {begins : Timestamptz} {stored : Stored}
    {db' : Db} (h : Writes s begins (some stored) db') {operation source : String}
    (hfailure : stored.failure = some (.error (.database operation source))) :
    source ∉ deliveryChecks := by
  cases h with
  | @enqueue plugin caller now request delivery hnew =>
    have hmax := (enqueued_of_newDelivery hnew).maxAttempts_bounds
    by_cases hevent : delivery.eventId ∈ s.db.deliveries.map DeliveryRow.eventId
    · cases hlookup : KeyedTable.lookup DeliveryRow.eventId delivery.eventId s.db.deliveries with
      | none => exact absurd hevent (KeyedTable.lookup_eq_none_iff.mp hlookup)
      | some row =>
        rw [transact_of_eq_ok (insertOrGet_of_event hmax hlookup)] at hfailure
        cases hfailure
    · by_cases hid : delivery.deliveryId ∈ s.db.deliveries.map DeliveryRow.deliveryId
      · rw [transact_of_eq_error (insertOrGet_of_collision hmax hid hevent)] at hfailure
        cases hfailure
      · obtain ⟨db', hok, -⟩ := insertOrGet_of_free begins hmax hid hevent
        rw [transact_of_eq_ok hok] at hfailure
        cases hfailure
  | claim plugin locked =>
    obtain ⟨db', hok, -⟩ := hinv.claim plugin begins locked
    rw [hok] at hfailure
    cases hfailure
  | @outcome p conclusion hp hsince houtcome =>
    cases hrun : conclusion.call.run begins s.db with
    | ok result =>
      obtain ⟨⟨⟩, db'⟩ := result
      rw [transact_of_eq_ok hrun] at hfailure
      cases hfailure
    | error e =>
      rw [transact_of_eq_error hrun] at hfailure
      rw [Option.some.inj hfailure] at hrun
      have hmem := recordOutcome_error_inv hrun
      simp only [attemptConstraints, List.mem_cons, List.not_mem_nil, or_false] at hmem
      rcases hmem with rfl | rfl | rfl <;> decide
  | replay deliveryId =>
    obtain ⟨db', hok, -⟩ := beginReplay_eq_ok begins deliveryId s.db
    rw [transact_of_eq_ok hok] at hfailure
    cases hfailure

/-- **The delivery state machine.** -/
theorem delivery_state_machine (P : Platform) :
    (∀ s, (system P).Reachable s → ∀ row ∈ s.db.deliveries, row.Sound) ∧
    (∀ s label t, (system P).Reachable s → (system P).step s label t →
      ∀ row ∈ s.db.deliveries, ∃ row' ∈ t.db.deliveries,
        row'.content = row.content ∧ (row' = row ∨ row.Edge row')) ∧
    (∀ s labels t, (system P).Reachable s → (system P).Path s labels t →
      ∀ row ∈ s.db.deliveries, ∃ row' ∈ t.db.deliveries,
        row'.content = row.content ∧
        (row'.number = row.number ∨ Before row.number row'.number) ∧
        (row.status = .delivered → row' = row)) ∧
    (∀ s label t, (system P).Reachable s → (system P).step s label t →
      ∀ stored, label.observation.stored = some stored → ∀ operation source,
        stored.failure = some (.error (.database operation source)) → source ∉ deliveryChecks) := by
  refine ⟨?_, ?_,
    ?_, fun s label t hs hstep stored hstored operation source
      hfailure => ?_⟩
  · intro s hs row hrow
    exact ((reachable_inv hs).sound _ _ (Db.life_of_mem hrow)).row
  · intro s label t hs hstep row hrow
    have hrefines := (Step.writes hstep).refines (reachable_inv hs)
    obtain ⟨l', hl', hobserved⟩ := hrefines.moves _ _ (Db.life_of_mem hrow)
    refine ⟨l'.row, Db.mem_of_life hl', ?_⟩
    rcases hobserved.step with rfl | hmove
    · exact ⟨rfl, .inl rfl⟩
    · exact ⟨hmove.content, .inr hmove.edge⟩
  · intro s labels t hs hpath row hrow
    obtain ⟨l', hl', hevolves⟩ := path_evolves hs hpath _ _ (Db.life_of_mem hrow)
    refine ⟨l'.row, Db.mem_of_life hl', hevolves.content, hevolves.progress, ?_⟩
    intro hdelivered
    rw [hevolves.delivered hdelivered]
  · have hwrites := Step.writes hstep
    rw [hstored] at hwrites
    exact hwrites.not_check (reachable_inv hs) hfailure

/-- The first order on its way to being delivered, and a response that is refused. -/
theorem delivery_state_machine_delivered :
    (∃ row row' : DeliveryRow, row.status = .delivering ∧ row'.status = .delivered ∧ row.Sound ∧
      row'.Sound ∧ row'.content = row.content ∧ row.Edge row') ∧
    (∃ row : DeliveryRow, row.status = .delivered ∧
      ∃ t, (system reference).Reachable t ∧ row ∈ t.db.deliveries) ∧
    "webhook_attempt_status_valid" ∉ deliveryChecks := by
  obtain ⟨labels, s, label, t, hrun, -, hstep, hd, -, -, hdelivered, -⟩ := exists_first_delivered
  obtain ⟨_, u, failing, u', call, hrefused, hfailing, hfailure⟩ := exists_first_refused
  have hmachine := delivery_state_machine reference
  have hs := hrun.reachable
  have hrow : firstOrder.row 0 ∈ s.db.deliveries := Db.mem_of_singleton hd
  obtain ⟨hrow', hid⟩ := Db.delivery_eq_some_iff.mp hdelivered
  refine ⟨⟨_, _, rfl, rfl, hmachine.1 s hs _ hrow, hmachine.1 t (hs.step hstep) _ hrow', rfl, ?_⟩,
    ⟨(firstOrder.row 0).assign (outcomeAssignment 1 .delivered none (firstOrder.row 0)), rfl, t,
      hs.step hstep, ?_⟩,
    hmachine.2.2.2 u failing u' hrefused.reachable hfailing _ hfailure _ _ rfl⟩
  · -- the step has changed the row, so it has moved it along an edge
    obtain ⟨moved, hmoved, hcontent, hedge⟩ := hmachine.2.1 s label t hs hstep _ hrow
    have hsame := Db.eq_of_deliveryId_eq hmoved hrow' (congrArg Content.deliveryId hcontent)
    subst hsame
    rcases hedge with hedge | hedge
    · exact absurd (congrArg DeliveryRow.status hedge) (by decide)
    · exact hedge
  · obtain ⟨kept, hkept, -, -, hfinal⟩ := hmachine.2.2.1 t [] t (hs.step hstep) rfl _ hrow'
    exact hfinal rfl ▸ hkept

/-! ### The ledger -/

/-- The receipts of a delivery, against its row. -/
structure Ledger (row : DeliveryRow) (keys : List (ℤ × ℤ)) : Prop where
  /-- They are in order. -/
  increasing : keys.Pairwise Before
  /-- They belong to the cycles up to the current one. -/
  cycles : ∀ p ∈ keys, 0 ≤ p.1 ∧ p.1 ≤ row.replayCount
  /-- An earlier cycle holds `1, …, k`. -/
  past : ∀ r, 0 ≤ r → r < row.replayCount →
    ∃ k, 1 ≤ k ∧ k ≤ row.maxAttempts ∧ ∀ n, (r, n) ∈ keys ↔ 1 ≤ n ∧ n ≤ k
  queued : row.status = .queued → ∀ n, (row.replayCount, n) ∉ keys
  atRest : row.status = .retryScheduled ∨ row.status = .delivered ∨ row.status = .deadLetter →
    ∀ n, (row.replayCount, n) ∈ keys ↔ 1 ≤ n ∧ n ≤ row.attempts
  delivering : row.status = .delivering →
    (∀ n, (row.replayCount, n) ∈ keys ↔ 1 ≤ n ∧ n ≤ row.attempts - 1) ∨
      ∀ n, (row.replayCount, n) ∈ keys ↔ 1 ≤ n ∧ n ≤ row.attempts

theorem Life.Sound.ledger_spec {l : Life} (h : l.Sound) :
    Ledger l.row (l.receipts.map AttemptRow.number) := by
  obtain ⟨closed, hclosed, hledger⟩ := h.ledger
  refine ⟨hledger.increasing, hledger.range, hledger.past, ?_, ?_, ?_⟩
  · intro hs n hn
    have hzero := h.row.queued hs
    have hrest : closed = l.row.attempts := hclosed.resolve_right (by simp [hs])
    have := (hledger.current n).mp hn
    omega
  · intro hs n
    have hrest : closed = l.row.attempts :=
      hclosed.resolve_right (by rcases hs with h | h | h <;> simp [h])
    exact hrest ▸ hledger.current n
  · intro hs
    rcases hclosed with rfl | ⟨-, rfl⟩
    · exact .inr hledger.current
    · exact .inl hledger.current

/-- **The newest receipt is the last one committed.** -/
theorem lastReceipt_eq_getLast? {db : Db} {id : String}
    (h : ((db.receipts id).map AttemptRow.number).Pairwise Before) :
    lastReceipt db id = (db.receipts id).getLast?.map decodeReceipt := by
  have hdesc : (db.receipts id).Pairwise fun a b => newestFirst b < newestFirst a := by
    rw [List.pairwise_map] at h
    refine h.imp fun {a b} hab => ?_
    rw [newestFirst, newestFirst, Prod.Lex.toLex_lt_toLex]
    rcases hab with hlt | ⟨heq, hlt⟩
    · exact .inl (Int.neg_lt_neg hlt)
    · exact .inr ⟨congrArg Neg.neg heq.symm, Int.neg_lt_neg hlt⟩
  rw [lastReceipt, Selection.leastBy_eq_getLast? hdesc]

theorem Sys.Inv.ledger {s : Sys P} (hinv : s.Inv) (id : String) :
    ((s.db.receipts id).map AttemptRow.number).Pairwise Before := by
  cases hl : s.db.life id with
  | none =>
    rw [Db.receipts_eq_nil_of_delivery_eq_none (Db.life_eq_none_iff.mp hl)]
    exact List.Pairwise.nil
  | some l =>
    rw [(Db.life_eq_some_iff.mp hl).2]
    exact (hinv.sound id l hl).ledger_spec.increasing

/-- Receipts are only ever added at the end, whether the delivery exists yet or not. -/
theorem Db.Evolves.receipts {db db' : Db} (h : db.Evolves db') (id : String) :
    db.receipts id <+: db'.receipts id := by
  cases hl : db.life id with
  | none =>
    rw [Db.receipts_eq_nil_of_delivery_eq_none (Db.life_eq_none_iff.mp hl)]
    exact List.nil_prefix
  | some l =>
    obtain ⟨l', hl', hevolves⟩ := h id l hl
    rw [(Db.life_eq_some_iff.mp hl).2, (Db.life_eq_some_iff.mp hl').2]
    exact hevolves.receipts

/-- **The attempt ledger.** -/
theorem attempt_ledger (P : Platform) :
    (∀ s, (system P).Reachable s → ∀ id row, s.db.delivery id = some row →
      Ledger row ((s.db.receipts id).map AttemptRow.number)) ∧
    (∀ s labels t, (system P).Reachable s → (system P).Path s labels t → ∀ id,
      ∃ new, t.db.receipts id = s.db.receipts id ++ new ∧
        ∀ a ∈ new, ∀ b ∈ s.db.receipts id, Before b.number a.number) ∧
    (∀ s, (system P).Reachable s → ∀ id,
      lastReceipt s.db id = (s.db.receipts id).getLast?.map decodeReceipt) := by
  refine ⟨?_, ?_, ?_⟩
  · intro s hs id row hrow
    exact ((reachable_inv hs).sound id _ (Db.life_of_delivery hrow)).ledger_spec
  · intro s labels t hs hpath id
    obtain ⟨new, hnew⟩ := (path_evolves hs hpath).receipts id
    refine ⟨new, hnew.symm, ?_⟩
    intro a ha b hb
    have hincreasing := (reachable_inv (hs.path hpath)).ledger id
    rw [← hnew, List.map_append, List.pairwise_append] at hincreasing
    exact hincreasing.2.2 _ (List.mem_map_of_mem hb) _ (List.mem_map_of_mem ha)
  · intro s hs id
    exact lastReceipt_eq_getLast? ((reachable_inv hs).ledger id)

/-- The first order, delivered. -/
theorem attempt_ledger_delivered :
    ∃ t row, (system reference).Reachable t ∧ row ∈ t.db.deliveries ∧ row.status = .delivered ∧
      row.number = (0, 1) ∧ Ledger row ((t.db.receipts row.deliveryId).map AttemptRow.number) ∧
      (t.db.receipts row.deliveryId).map AttemptRow.number = [(0, 1)] ∧
      (lastReceipt t.db row.deliveryId).map DeliveryReceipt.outcome = some "delivered" ∧
      ∃ s label new, (system reference).Path s [label] t ∧
        t.db.receipts row.deliveryId = s.db.receipts row.deliveryId ++ new := by
  obtain ⟨labels, s, label, t, hrun, -, hstep, -, -, -, hdelivered, hattempts⟩ :=
    exists_first_delivered
  have hledger := attempt_ledger reference
  have hs := hrun.reachable
  have ht := hs.step hstep
  have hpath : (system reference).Path s [label] t :=
    TransitionSystem.path_cons.mpr ⟨t, hstep, rfl⟩
  obtain ⟨hrow, hid⟩ := Db.delivery_eq_some_iff.mp hdelivered
  have hreceipts : t.db.receipts firstOrder.delivery.deliveryId = t.db.attempts := by
    rw [Db.receipts, hattempts]
    exact List.filter_cons_of_pos (decide_eq_true rfl)
  obtain ⟨new, hnew, -⟩ := hledger.2.1 s [label] t hs hpath firstOrder.delivery.deliveryId
  refine ⟨t, _, ht, hrow, rfl, rfl, hledger.1 t ht _ _ hdelivered, ?_, ?_, s, label, new, hpath,
    hnew⟩
  · show (t.db.receipts firstOrder.delivery.deliveryId).map AttemptRow.number = [(0, 1)]
    rw [hreceipts, hattempts]
    rfl
  · show (lastReceipt t.db firstOrder.delivery.deliveryId).map _ = _
    rw [hledger.2.2 t ht, hreceipts, hattempts]
    rfl

end OutboundWebhook
