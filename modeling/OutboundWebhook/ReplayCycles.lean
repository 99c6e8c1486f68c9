import OutboundWebhook.Replay
import OutboundWebhook.Reference

/-!
# Cycle after cycle

Replays are exact, and an order of the reference platform is taken through as many cycles as the
bound on `replay_count` allows to show what they are not.

## Two reasons behind one error

The update of a replay also refuses a delivery whose `replay_count` has reached its bound. Such a
refusal and a lost race both come back as `not_dead_letter`, so after a million replays an operator
is told that a delivery is not dead-lettered although it was so all along (`exists_misreported`).

## The cycle that is replayed

The update does not name the cycle that was read. A replay that is overtaken by another one, by a
delivery and by a second failure opens the cycle after that (`exists_overtaken`).

## Main results

* `replay_exact`
* `replay_anomalies`
-/

namespace OutboundWebhook

variable {P : Platform}

/-! ### Many cycles of one order -/

/-- The step calls a replay. -/
def Action.StartsReplay : Action P → Prop
  | .start (.replay _ _ _) => True
  | _ => False

/-- The first order in a later cycle, its request sent. -/
def sentRow (k : ℤ) : DeliveryRow := { firstOrder.row 0 with replayCount := k }

/-- The first order, dead-lettered in a later cycle. -/
def deadRow (k : ℤ) : DeliveryRow :=
  { sentRow k with status := .deadLetter, leaseExpiresAt := none }

/-- A response with status 400 ends the cycle. -/
theorem exists_dead {s : Sys reference} {k : ℤ} {others : List (Pending reference)}
    (hk : 0 ≤ k ∧ k ≤ 1000000) (hd : s.db.deliveries = [sentRow k])
    (hp : s.pending
      = others ++ [⟨.posted firstOrder.plugin (decodeDelivery (sentRow k)), 0⟩])
    (hn : s.now = 0) :
    ∃ label t, (system reference).step s label t ∧ ¬label.action.StartsReplay ∧
      t.db.deliveries = [deadRow k] ∧ t.pending = others ∧ t.now = 0 := by
  have hrow : sentRow k ∈ s.db.deliveries := Db.mem_of_singleton hd
  have hcheck : ((classify reference (decodeDelivery (sentRow k)) 0 (.ok ⟨400, []⟩)).1.toRow
      firstOrder.delivery.deliveryId k).violation = none := by
    refine AttemptRow.violation_eq_none_iff.mpr ⟨?_, ?_⟩
    · show (1 : ℤ) ≤ 0 + 1 ∧ (0 : ℤ) + 1 ≤ 100
      decide
    · intro status hstatus
      obtain rfl : 400 = status := Option.some.inj hstatus
      decide
  have hfenced : (sentRow k).isFenced 0 firstOrder.delivery.deliveryId k (0 + 1) :=
    DeliveryRow.isFenced_iff.mpr ⟨rfl, rfl, rfl, _, rfl, by decide⟩
  obtain ⟨label, t, hstep, -, haction, -, hd', -, hp', hn'⟩ :=
    @exists_recorded reference s 0 firstOrder.plugin (decodeDelivery (sentRow k)) 0 0 0 0 others []
      (.ok ⟨400, []⟩) _ _ rfl hp (fitsColumns_of_check hk hcheck) hcheck _ hrow hfenced (le_refl 0)
      (le_refl 0) (le_of_eq hn)
  refine ⟨label, t, hstep, ?_, ?_, hp'.trans (List.append_nil others), hn'⟩
  · rw [haction]
    exact id
  · rw [hd', hd]
    exact congrArg (fun row => [row]) (if_pos hfenced)

theorem delivery_deadRow {db : Db} {k : ℤ} (hd : db.deliveries = [deadRow k]) :
    db.delivery firstOrder.delivery.deliveryId = some (deadRow k) := by
  have hmem : deadRow k ∈ db.deliveries := Db.mem_of_singleton hd
  exact Db.delivery_of_mem hmem

/-- An update that opens the next cycle. -/
theorem exists_first_replayed {s : Sys reference} {k : ℤ} {others : List (Pending reference)}
    (hk : k < 1000000) (hd : s.db.deliveries = [deadRow k])
    (hp : s.pending = ⟨.replayable firstOrder.delivery.deliveryId, 0⟩ :: others)
    (hn : s.now = 0) :
    ∃ label t, (system reference).step s label t ∧
      label.repliedOf firstOrder.delivery.deliveryId = some ⟨k + 1⟩ ∧
      t.db.deliveries = [(deadRow k).assign (replayAssignment 0 (deadRow k))] ∧
      t.pending = others ∧ t.now = 0 := by
  have hreplayable : (deadRow k).isReplayable firstOrder.delivery.deliveryId :=
    DeliveryRow.isReplayable_iff.mpr ⟨rfl, rfl, hk⟩
  obtain ⟨db', hok, hd', -⟩ := beginReplay_eq_ok 0 firstOrder.delivery.deliveryId s.db
  rw [delivery_deadRow hd, Option.filter_some, if_pos hreplayable, Option.map_some] at hok
  obtain ⟨label, t, hstep, haction, hanswer, hdb, hp', hn'⟩ :=
    @exists_replay_stored reference s 0 _ 0 [] others hp (le_refl 0) (le_of_eq hn)
  rw [transact_of_eq_ok hok] at hanswer hdb
  refine ⟨label, t, hstep, ?_, ?_, hp', hn'⟩
  · rw [Label.repliedOf, haction, hanswer]
    exact if_pos rfl
  · rw [hdb, hd', hd]
    exact congrArg (fun row => [row]) (if_pos hreplayable)

/-- The replayed order is claimed and sent. -/
theorem exists_sent_again {s : Sys reference} (hs : (system reference).Reachable s) {k : ℤ}
    (hd : s.db.deliveries = [(deadRow k).assign (replayAssignment 0 (deadRow k))])
    (hn : s.now = 0) :
    ∃ labels t, (system reference).Path s labels t ∧
      (∀ label ∈ labels, ¬label.action.StartsReplay) ∧ t.db.deliveries = [sentRow (k + 1)] ∧
      t.pending = s.pending ++
        [⟨.posted firstOrder.plugin (decodeDelivery (sentRow (k + 1))), 0⟩] ∧ t.now = 0 := by
  obtain ⟨hcandidate, -, hafter⟩ := @Db.claim_of_allBusy 0 Db.empty s.db _
    (fun row hrow => nomatch hrow) hd (DeliveryRow.isWaiting_iff.mpr ⟨.inl rfl, le_refl (0 : ℤ)⟩)
    (by show (0 : ℤ) < 2; decide)
  obtain ⟨s₁, hclaim, hd₁, -, hp₁, hn₁⟩ := @exists_claim reference s 0 (reachable_inv hs)
    firstOrder.plugin _ firstOrder.prepared 0 _ firstOrder.operator_allowed firstOrder.active
    hcandidate (le_refl 0) (le_of_eq hn)
  obtain ⟨request, hrequest⟩ := exists_signedRequest 2 (decodeDelivery (sentRow (k + 1)))
  obtain ⟨s₂, hpost, hdb₂, hp₂, hn₂⟩ := @exists_post reference s₁ 0 _ _ _ 0 0 s.pending [] request
    hp₁ (firstOrder.endpointDiffers_eq_false _ rfl) hrequest (le_refl 0) (le_of_eq hn₁)
  rw [List.append_nil] at hp₂
  refine ⟨[_, _], s₂, ⟨s₁, hclaim, s₂, hpost, rfl⟩, ?_, ?_, hp₂, hn₂⟩
  · intro label hlabel
    rcases List.mem_pair.mp hlabel with rfl | rfl <;> exact id
  · rw [hdb₂, hd₁]
    exact hafter 30

/-- **Any number of cycles**, up to the bound. -/
theorem exists_cycles (n : ℕ) (hn : n ≤ 1000000) :
    ∃ s, (system reference).Reachable s ∧ s.db.deliveries = [deadRow n] ∧ s.pending = [] ∧
      s.now = 0 := by
  have hid : validDeliveryId firstOrder.delivery.deliveryId := by decide +kernel
  induction n with
  | zero =>
    obtain ⟨labels, s, hrun, -, hd, -, hp, hnow⟩ := exists_first_sent
    obtain ⟨label, t, hdead, -, hd', hp', hn'⟩ :=
      @exists_dead s 0 [] ⟨le_refl 0, by decide⟩ hd hp hnow
    exact ⟨t, hrun.reachable.step hdead, hd', hp', hn'⟩
  | succ n ih =>
    obtain ⟨s, hs, hd, hp, hnow⟩ := ih (by omega)
    obtain ⟨first, s₁, hfirst, -, hdb₁, hp₁, hn₁⟩ := @exists_replaying reference s 0 _ _ _ _ _
      firstOrder.operator_allowed firstOrder.active hid (delivery_deadRow hd) (le_of_eq hnow)
    rw [hp] at hp₁
    obtain ⟨second, s₂, hsecond, -, hdb₂, hp₂, hn₂⟩ :=
      @exists_replayable reference s₁ 0 _ 0 [] [] hp₁ rfl (le_refl 0) (le_of_eq hn₁)
    have hd₂ : s₂.db.deliveries = [deadRow n] := by rw [hdb₂, hdb₁, hd]
    obtain ⟨third, s₃, hthird, -, hd₃, hp₃, hn₃⟩ :=
      @exists_first_replayed s₂ n [] (by omega) hd₂ hp₂ hn₂
    have hs₃ := ((hs.step hfirst).step hsecond).step hthird
    obtain ⟨labels, s₄, hpath, -, hd₄, hp₄, hn₄⟩ := exists_sent_again hs₃ hd₃ hn₃
    rw [hp₃] at hp₄
    obtain ⟨label, t, hdead, -, hd', hp', hn'⟩ :=
      @exists_dead s₄ (n + 1) [] ⟨by omega, by omega⟩ hd₄ hp₄ hn₄
    exact ⟨t, (hs₃.path hpath).step hdead, hd', hp', hn'⟩


/-! ### The main results -/

/-- **Replays are exact.** -/
theorem replay_exact (P : Platform) {labels : List (Label P)} {s : Sys P}
    (hrun : (system P).Run labels s) :
    (∀ id, (s.db.delivery id = none → repliesOf id labels = []) ∧
      ∀ row, s.db.delivery id = some row →
        ∃ n : ℕ, row.replayCount = n ∧ repliesOf id labels = firstReplays n) ∧
    ∀ label t, (system P).step s label t →
      (∀ response, label.observation.answer = some (.replay (.ok response)) →
        ∃ id, label.repliedOf id = some response ∧ (system P).Once labels s fun _ first =>
          ∃ plugin caller, first.action = .start (.replay plugin caller id)) ∧
      (∀ id response, label.repliedOf id = some response →
        OpensCycle id s.db t.db response ∧
        ∀ later u next v response', (system P).Path t later u → (system P).step u next v →
          next.repliedOf id = some response' → response.replayCount < response'.replayCount) ∧
      (label.action.OfReplay →
        (∀ response, label.observation.answer ≠ some (.replay (.ok response))) → t.db = s.db) ∧
      (∀ error, label.observation.answer = some (.replay (.error error)) → t.db = s.db) ∧
      (label.observation.answer = some (.replay (.error (.error (.replay .notFound)))) →
        ∃ plugin caller id, label.action = .start (.replay plugin caller id) ∧
          s.db.delivery id = none) ∧
      (label.observation.answer = some (.replay (.error (.error (.replay .notDeadLetter)))) →
        ∃ p ∈ s.pending, ∃ id, label.action = .resume p.task .turn ∧ p.task.replays = some id ∧
          (system P).Once labels s fun s₁ first =>
            (∃ plugin caller, first.action = .start (.replay plugin caller id)) ∧
            ((p.since = first.takesEffect ∧ ∃ row, s₁.db.delivery id = some row ∧
                row.status ≠ .deadLetter) ∨
              ∃ row, s.db.delivery id = some row ∧
                (row.status ≠ .deadLetter ∨ row.replayCount = 1000000))) := by
  refine ⟨?_, fun label t hstep => ⟨?_, ?_, ?_, ?_, ?_, ?_⟩⟩
  · intro id
    obtain ⟨hnone, hsome⟩ := repliesOf_eq hrun id
    refine ⟨fun hrow => hnone (Db.life_eq_none_iff.mpr hrow), ?_⟩
    intro row hrow
    exact hsome _ (Db.life_of_delivery hrow)
  · exact fun response hanswer => repliedOf_of_ok hrun hstep hanswer
  · intro id response hreplied
    have hopens := Step.opensCycle hstep hreplied
    refine ⟨hopens, ?_⟩
    intro later u next v response' hpath hnext hreplied'
    exact hopens.cycle_lt (hrun.reachable.step hstep) hpath (Step.opensCycle hnext hreplied')
  · exact Step.db_eq_of_replay hstep
  · exact fun error hanswer => (Step.endsReplay hstep hanswer).db_eq hstep hanswer
  · exact fun hanswer => (Step.endsReplay hstep hanswer).not_found
  · exact fun hanswer => not_dead_letter_reason hrun (Step.endsReplay hstep hanswer)

/-- The theorem at the first replay of the first order. -/
theorem replay_exact_first :
    ∃ (labels : List (Label reference)) (label : Label reference) (s t : Sys reference)
      (id : String), (system reference).Run labels s ∧
      (system reference).step s label t ∧ label.repliedOf id = some ⟨1⟩ ∧
      OpensCycle id s.db t.db ⟨1⟩ ∧ ∃ n : ℕ, repliesOf id labels = firstReplays n := by
  obtain ⟨s, hs, hd, hp, hn⟩ := exists_cycles 0 (Nat.zero_le _)
  have hid : validDeliveryId firstOrder.delivery.deliveryId := by decide +kernel
  have hrow := delivery_deadRow hd
  obtain ⟨first, s₁, hfirst, -, hdb₁, hp₁, hn₁⟩ := @exists_replaying reference s 0 _ _ _ _ _
    firstOrder.operator_allowed firstOrder.active hid hrow (le_of_eq hn)
  rw [hp] at hp₁
  obtain ⟨second, s₂, hsecond, -, hdb₂, hp₂, hn₂⟩ :=
    @exists_replayable reference s₁ 0 _ 0 [] [] hp₁ rfl (le_refl 0) (le_of_eq hn₁)
  have hd₂ : s₂.db.deliveries = [deadRow (0 : ℕ)] := by rw [hdb₂, hdb₁, hd]
  obtain ⟨label, t, hstep, hreplied, -⟩ := exists_first_replayed (by decide) hd₂ hp₂ hn₂
  obtain ⟨labels, hrun⟩ := (hs.step hfirst).step hsecond
  obtain ⟨hreplies, hsteps⟩ := replay_exact reference hrun
  obtain ⟨-, hopens, -⟩ := hsteps label t hstep
  obtain ⟨n, -, hnumbered⟩ := (hreplies _).2 _ (delivery_deadRow hd₂)
  exact ⟨labels, label, s₂, t, _, hrun, hstep, hreplied, (hopens _ _ hreplied).1, n, hnumbered⟩

/-! ### What a replay may also do -/

variable (P) in
/-- A replay is told that its delivery is not dead-lettered, although it is so in every state of
the call. -/
def MisreportedReplay : Prop :=
  ∃ (plugin : OutboundWebhookPlugin P) (caller : Option String) (id : String)
    (s s₁ s₂ t : Sys P) (first second label : Label P) (row : DeliveryRow),
    plugin.config.adminAllowed caller ∧ validDeliveryId id ∧ (system P).Reachable s ∧
    (system P).step s first s₁ ∧ (system P).step s₁ second s₂ ∧ (system P).step s₂ label t ∧
    first.action = .start (.replay plugin caller id) ∧
    second.action = .resume (.replaying (decodeDelivery row)) .turn ∧
    label.action = .resume (.replayable id) .turn ∧
    label.observation.answer = some (.replay (.error (.error (.replay .notDeadLetter)))) ∧
    row.status = .deadLetter ∧ row.replayCount = 1000000 ∧
    ∀ u ∈ [s, s₁, s₂, t], u.db.delivery id = some row

variable (P) in
/-- Two replays read one dead-lettered cycle, and both succeed. No other replay is called. -/
def OvertakenReplay : Prop :=
  ∃ (plugin : OutboundWebhookPlugin P) (caller : Option String) (id : String)
    (s s₁ s₂ u u' v t : Sys P) (call call' reply reply' : Label P)
    (middle later : List (Label P)) (row : DeliveryRow),
    plugin.config.adminAllowed caller ∧ validDeliveryId id ∧ (system P).Reachable s ∧
    s.pending = [] ∧ (system P).step s call s₁ ∧ (system P).step s₁ call' s₂ ∧
    (system P).Path s₂ middle u ∧ (system P).step u reply u' ∧ (system P).Path u' later v ∧
    (system P).step v reply' t ∧
    call.action = .start (.replay plugin caller id) ∧
    call'.action = .start (.replay plugin caller id) ∧
    (∀ label ∈ middle ++ later, ¬label.action.StartsReplay) ∧
    s.db.delivery id = some row ∧ s₁.db.delivery id = some row ∧ row.status = .deadLetter ∧
    row.replayCount = 0 ∧ reply.repliedOf id = some ⟨1⟩ ∧ reply'.repliedOf id = some ⟨2⟩

/-- **The update refuses the millionth cycle** of a delivery that nothing has touched. -/
theorem exists_misreported : MisreportedReplay reference := by
  obtain ⟨s, hs, hd, hp, hn⟩ := exists_cycles 1000000 (le_refl _)
  have hid : validDeliveryId firstOrder.delivery.deliveryId := by decide +kernel
  have hrow := delivery_deadRow hd
  obtain ⟨first, s₁, hfirst, haction₁, hdb₁, hp₁, hn₁⟩ := @exists_replaying reference s 0 _ _ _ _ _
    firstOrder.operator_allowed firstOrder.active hid hrow (le_of_eq hn)
  rw [hp] at hp₁
  obtain ⟨second, s₂, hsecond, haction₂, hdb₂, hp₂, hn₂⟩ :=
    @exists_replayable reference s₁ 0 _ 0 [] [] hp₁ rfl (le_refl 0) (le_of_eq hn₁)
  obtain ⟨third, t, hthird, haction₃, hanswer, hdb₃, -, -⟩ :=
    @exists_replay_stored reference s₂ 0 _ 0 [] [] hp₂ (le_refl 0) (le_of_eq hn₂)
  rw [hdb₂, hdb₁] at hanswer hdb₃
  have hrefused : ¬(deadRow (1000000 : ℕ)).isReplayable firstOrder.delivery.deliveryId :=
    fun h => absurd (DeliveryRow.isReplayable_iff.mp h).2.2 (lt_irrefl _)
  have hnone : (s.db.delivery firstOrder.delivery.deliveryId).filter
      (DeliveryRow.isReplayable firstOrder.delivery.deliveryId) = none := by
    rw [hrow, Option.filter_some, if_neg hrefused]
  have hrun : transact (beginReplay 0 firstOrder.delivery.deliveryId) s.db = (.ok none, s.db) :=
    transact_of_eq_ok (beginReplay_of_not_replayable 0 hnone)
  refine ⟨_, _, _, s, s₁, s₂, t, first, second, third, deadRow (1000000 : ℕ),
    firstOrder.operator_allowed, hid, hs, hfirst, hsecond, hthird, haction₁, haction₂, haction₃, ?_,
    rfl, rfl, ?_⟩
  · rw [hanswer]
    exact congrArg (fun result => some (Answer.replay (replayAnswer result.1))) hrun
  · intro u hu
    have hsame : u.db = s.db := by
      simp only [List.mem_cons, List.not_mem_nil, or_false] at hu
      rcases hu with rfl | rfl | rfl | rfl
      · rfl
      · exact hdb₁
      · exact hdb₂.trans hdb₁
      · exact hdb₃.trans (congrArg Prod.snd hrun)
    rw [hsame]
    exact hrow

/-- **A replay that is overtaken opens a later cycle** than the one it has read. -/
theorem exists_overtaken : OvertakenReplay reference := by
  obtain ⟨s, hs, hd, hp, hn⟩ := exists_cycles 0 (Nat.zero_le _)
  have hid : validDeliveryId firstOrder.delivery.deliveryId := by decide +kernel
  have hrow := delivery_deadRow hd
  obtain ⟨call, s₁, hcall, haction, hdb₁, hp₁, hn₁⟩ := @exists_replaying reference s 0 _ _ _ _ _
    firstOrder.operator_allowed firstOrder.active hid hrow (le_of_eq hn)
  obtain ⟨call', s₂, hcall', haction', hdb₂, hp₂, hn₂⟩ := @exists_replaying reference s₁ 0 _ _ _ _ _
    firstOrder.operator_allowed firstOrder.active hid (hdb₁ ▸ hrow) (le_of_eq hn₁)
  rw [hp₁, hp] at hp₂
  -- both have read the row, and both go on
  obtain ⟨turn, s₃, hturn, hgo, hdb₃, hp₃, hn₃⟩ :=
    @exists_replayable reference s₂ 0 _ 0 [] _ hp₂ rfl (le_refl 0) (le_of_eq hn₂)
  obtain ⟨turn', u, hturn', hgo', hdbu, hpu, hnu⟩ :=
    @exists_replayable reference s₃ 0 _ 0 [] _ hp₃ rfl (le_refl 0) (le_of_eq hn₃)
  have hdu : u.db.deliveries = [deadRow (0 : ℕ)] := by rw [hdbu, hdb₃, hdb₂, hdb₁, hd]
  obtain ⟨reply, u', hreply, hfirst, hdu', hpu', hnu'⟩ :=
    exists_first_replayed (by decide) hdu hpu hnu
  have hu : (system reference).Reachable u :=
    (((hs.step hcall).step hcall').step hturn).step hturn'
  -- the delivery is sent again and dead-lettered again
  obtain ⟨labels, v₀, hpath, hquiet, hd₀, hp₀, hn₀⟩ := exists_sent_again (hu.step hreply) hdu' hnu'
  obtain ⟨dead, v, hdead, hnot, hdv, hpv, hnv⟩ := exists_dead ⟨by decide, by decide⟩ hd₀ hp₀ hn₀
  rw [hpu'] at hpv
  obtain ⟨reply', t, hreply', hsecond, -⟩ := exists_first_replayed (by decide) hdv hpv hnv
  refine ⟨_, _, _, s, s₁, s₂, u, u', v, t, call, call', reply, reply', [turn, turn'],
    labels ++ [dead], deadRow (0 : ℕ), firstOrder.operator_allowed, hid, hs, hp, hcall, hcall',
    ⟨s₃, hturn, u, hturn', rfl⟩, hreply, TransitionSystem.path_snoc.mpr ⟨v₀, hpath, hdead⟩,
    hreply', haction, haction', ?_, hrow, hdb₁ ▸ hrow, rfl, rfl, hfirst, hsecond⟩
  intro label hlabel
  simp only [List.mem_append, List.mem_cons, List.not_mem_nil, or_false] at hlabel
  rcases hlabel with (rfl | rfl) | hlabel | rfl
  · rw [hgo]
    exact id
  · rw [hgo']
    exact id
  · exact hquiet label hlabel
  · exact hnot

/-- **What is not true of replays.** -/
theorem replay_anomalies : MisreportedReplay reference ∧ OvertakenReplay reference :=
  ⟨exists_misreported, exists_overtaken⟩

end OutboundWebhook
