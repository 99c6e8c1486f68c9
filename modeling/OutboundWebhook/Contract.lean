import OutboundWebhook.DomainErrors
import OutboundWebhook.Foundations.JsonSchema
import OutboundWebhook.Native
import OutboundWebhook.ReadBack
import OutboundWebhook.Replay

/-!
# The published contract

Both capabilities publish a JSON Schema for the response and for the domain errors of each
operation. The schemas bound the numbers of a delivery: attempts go up to 100, replays up to a
million, and a receipt counts from one. Nothing in the code that answers a caller compares a number
with these bounds. What keeps them are the constraints of the tables and the invariants of the
state machine, so that an answer conforms is a statement about whole runs.

A dispatch shows a receipt it has just recorded, an inspect a row and a receipt it has read in two
statements, a replay the row it has just written.

## Main results

* `answers_conform` — in every run, whatever an operation answers is what its schema promises
* `conforms_known_iff` — the error schemas admit the known errors and no other
-/

namespace OutboundWebhook

open JsonSchema

/-! ### Documents -/

def draft : String × Json := ("$schema", .string "https://json-schema.org/draft/2020-12/schema")

def titled (title : String) : String × Json := ("title", .string title)

/-- `schemas/enqueue-response.schema.json` -/
def enqueueResponseSchema : Json := .object <|
  [draft] ++
  record ["delivery_id", "created", "status"]
    [("delivery_id", typed "string"),
     ("created", typed "boolean"),
     ("status", definition "EnqueueResponseStatus")] ++
  [("$defs", .object
    [("EnqueueResponseStatus",
      enumeration ["queued", "delivering", "delivered", "retry_scheduled", "dead_letter"])]),
   titled "EnqueueResponse"]

/-- `schemas/enqueue-error.schema.json` -/
def enqueueErrorSchema : Json := .object <|
  [draft] ++ [constants ["invalid_event", "idempotency_conflict", "forbidden"]]

def nullableString : String × Json :=
  ("Nullable_string", .object [("type", .array [.string "string", .string "null"])])

/-- The receipt of a dispatch response and of an inspect response. -/
def receiptSchema : Json := .object <|
  [] ++
  record ["attempt", "outcome", "http_status", "response_sha256", "occurred_at"]
    [("attempt", ranged 1 100),
     ("outcome", typed "string"),
     ("http_status", definition "Nullable_string"),
     ("response_sha256", definition "Nullable_string"),
     ("occurred_at", formatted "date-time")] ++
  []

/-- `schemas/dispatch-response.schema.json` -/
def dispatchResponseSchema : Json := .object <|
  [draft] ++
  record ["outcome", "delivery_id", "receipt"]
    [("outcome", definition "DispatchResponseOutcome"),
     ("delivery_id", definition "Nullable_string"),
     ("receipt", definition "Nullable_DispatchResponseReceipt")] ++
  [("$defs", .object
    [("DispatchResponseOutcome",
      enumeration ["idle", "delivered", "retry_scheduled", "dead_lettered"]),
     ("DispatchResponseReceipt", receiptSchema),
     ("Nullable_DispatchResponseReceipt", nullable "DispatchResponseReceipt"),
     nullableString]),
   titled "DispatchResponse"]

/-- `schemas/dispatch-error.schema.json` -/
def dispatchErrorSchema : Json := .object <| [draft] ++ [constants ["forbidden"]]

/-- `schemas/inspect-response.schema.json` -/
def inspectResponseSchema : Json := .object <|
  [draft] ++
  record ["delivery_id", "event_id", "event_type", "endpoint_origin", "payload_sha256", "status",
      "attempts", "max_attempts", "replay_count", "last_receipt"]
    [("delivery_id", typed "string"),
     ("event_id", typed "string"),
     ("event_type", typed "string"),
     ("endpoint_origin", typed "string"),
     ("payload_sha256", typed "string"),
     ("status", definition "InspectResponseStatus"),
     ("attempts", ranged 0 100),
     ("max_attempts", ranged 1 100),
     ("replay_count", ranged 0 1000000),
     ("last_receipt", definition "Nullable_InspectResponseLastReceipt")] ++
  [("$defs", .object
    [("InspectResponseLastReceipt", receiptSchema),
     ("InspectResponseStatus",
      enumeration ["queued", "delivering", "retry_scheduled", "delivered", "dead_letter"]),
     ("Nullable_InspectResponseLastReceipt", nullable "InspectResponseLastReceipt"),
     nullableString]),
   titled "InspectResponse"]

/-- `schemas/inspect-error.schema.json` -/
def inspectErrorSchema : Json := .object <|
  [draft] ++ [constants ["forbidden", "invalid_delivery", "not_found"]]

/-- `schemas/replay-response.schema.json` -/
def replayResponseSchema : Json := .object <|
  [draft] ++ record ["replay_count"] [("replay_count", ranged 1 1000000)] ++
  [titled "ReplayResponse"]

/-- `schemas/replay-error.schema.json` -/
def replayErrorSchema : Json := .object <|
  [draft] ++ [constants ["forbidden", "invalid_delivery", "not_found", "not_dead_letter"]]

/-! ### Responses on the wire -/

/-- The statuses of a response are written like those of the column. -/
def EnqueueResponse.serialize (response : EnqueueResponse) : Json := .object
  [("created", .bool response.created),
   ("delivery_id", .string response.deliveryId),
   ("status", .string response.status.asStr)]

def optionalString (value : Option String) : Json := value.elim .null .string

def ResponseReceipt.serialize (receipt : ResponseReceipt) : Json := .object
  [("attempt", .number receipt.attempt),
   ("http_status", optionalString receipt.httpStatus),
   ("occurred_at", .string receipt.occurredAt),
   ("outcome", .string receipt.outcome),
   ("response_sha256", optionalString receipt.responseSha256)]

def optionalReceipt (receipt : Option ResponseReceipt) : Json :=
  receipt.elim .null ResponseReceipt.serialize

def DispatchResponseOutcome.asStr : DispatchResponseOutcome → String
  | .idle => "idle"
  | .delivered => "delivered"
  | .retryScheduled => "retry_scheduled"
  | .deadLettered => "dead_lettered"

def DispatchResponse.serialize (response : DispatchResponse) : Json := .object
  [("delivery_id", optionalString response.deliveryId),
   ("outcome", .string response.outcome.asStr),
   ("receipt", optionalReceipt response.receipt)]

def InspectResponse.serialize (response : InspectResponse) : Json := .object
  [("attempts", .number response.attempts),
   ("delivery_id", .string response.deliveryId),
   ("endpoint_origin", .string response.endpointOrigin),
   ("event_id", .string response.eventId),
   ("event_type", .string response.eventType),
   ("last_receipt", optionalReceipt response.lastReceipt),
   ("max_attempts", .number response.maxAttempts),
   ("payload_sha256", .string response.payloadSha256),
   ("replay_count", .number response.replayCount),
   ("status", .string response.status.asStr)]

def ReplayResponse.serialize (response : ReplayResponse) : Json := .object
  [("replay_count", .number response.replayCount)]

/-! ### Formats -/

/-- What follows a text of that shape. -/
def afterShape : List (UInt8 → Bool) → Bytes → Option Bytes
  | [], rest => some rest
  | p :: ps, b :: bs => if p b then afterShape ps bs else none
  | _ :: _, [] => none

def isFraction : Bytes → Bool
  | [] => true
  | b :: digits => b == 0x2e && !digits.isEmpty && digits.all isAsciiDigit

/-- The shape of a date and time in UTC. -/
def isDateTime (text : String) : Bool :=
  (afterShape dateTimeShape (asBytes text)).any fun rest =>
    isFraction rest.dropLast && rest.getLast? == some 0x5a

/-- The one format the documents name. -/
def formats (name text : String) : Bool := name != "date-time" || isDateTime text

theorem afterShape_append {shape : List (UInt8 → Bool)} {bs : Bytes}
    (h : List.Forall₂ (fun (p : UInt8 → Bool) b => p b) shape bs) (rest : Bytes) :
    afterShape shape (bs ++ rest) = some rest := by
  induction h with
  | nil => rfl
  | cons hb _ ih =>
    rw [List.cons_append, afterShape, if_pos hb]
    exact ih

theorem isFraction_of {bs : Bytes} (h : IsFraction bs) : isFraction bs = true := by
  rcases h with rfl | ⟨digits, hne, hdigits, rfl⟩
  · rfl
  · simpa [isFraction, hne] using hdigits

theorem formats_of_isRfc3339Utc {text : String} (h : IsRfc3339Utc text) :
    formats "date-time" text = true := by
  obtain ⟨dateTime, fraction, hdate, hfraction, htext⟩ := h
  rw [List.append_assoc] at htext
  simp [formats, isDateTime, htext, afterShape_append hdate, isFraction_of hfraction]

/-- The value is what the document demands. -/
def Conforms (schema value : Json) : Prop := Accepts formats schema schema value

/-! ### Responses that conform -/

/-- Two documents that show the same receipts. -/
structure ShowsReceipts (root : Json) : Prop where
  string : resolve root "#/$defs/Nullable_string" = some nullableString.2

theorem accepts_optionalString {root : Json} (hroot : ShowsReceipts root) (value : Option String) :
    Accepts formats root (definition "Nullable_string") (optionalString value) := by
  refine accepts_definition hroot.string ⟨1, ?_⟩
  cases value <;> rfl

/-- A receipt that may be shown. -/
structure ResponseReceipt.Sound (receipt : ResponseReceipt) : Prop where
  attempt : 1 ≤ receipt.attempt ∧ receipt.attempt ≤ 100
  occurredAt : IsRfc3339Utc receipt.occurredAt

theorem accepts_receipt {root : Json} (hroot : ShowsReceipts root) {receipt : ResponseReceipt}
    (h : receipt.Sound) : Accepts formats root receiptSchema receipt.serialize := by
  refine accepts_record (by decide) (by decide) (by decide) (by simp) ?_
  simp only [List.forall_mem_cons, List.not_mem_nil, false_implies, implies_true, and_true]
  exact ⟨⟨_, rfl, accepts_ranged h.attempt.1 h.attempt.2⟩,
    ⟨_, rfl, accepts_typed List.mem_cons_self⟩,
    ⟨_, rfl, accepts_optionalString hroot receipt.httpStatus⟩,
    ⟨_, rfl, accepts_optionalString hroot receipt.responseSha256⟩,
    ⟨_, rfl, accepts_formatted (formats_of_isRfc3339Utc h.occurredAt)⟩⟩

theorem conforms_enqueueResponse (response : EnqueueResponse) :
    Conforms enqueueResponseSchema response.serialize := by
  refine accepts_record (by decide) (by decide) (by decide) (by simp) ?_
  simp only [List.forall_mem_cons, List.not_mem_nil, false_implies, implies_true, and_true]
  refine ⟨⟨_, rfl, accepts_typed List.mem_cons_self⟩, ⟨_, rfl, accepts_typed List.mem_cons_self⟩,
    ⟨_, rfl, accepts_definition rfl (accepts_enumeration ?_)⟩⟩
  cases response.status <;> decide

theorem conforms_dispatchResponse {response : DispatchResponse}
    (h : ∀ receipt ∈ response.receipt, receipt.Sound) :
    Conforms dispatchResponseSchema response.serialize := by
  have hroot : ShowsReceipts dispatchResponseSchema := ⟨rfl⟩
  refine accepts_record (by decide) (by decide) (by decide) (by simp) ?_
  simp only [List.forall_mem_cons, List.not_mem_nil, false_implies, implies_true, and_true]
  refine ⟨⟨_, rfl, accepts_definition rfl (accepts_enumeration ?_)⟩,
    ⟨_, rfl, accepts_optionalString hroot response.deliveryId⟩,
    ⟨_, rfl, accepts_definition rfl ?_⟩⟩
  · cases response.outcome <;> decide
  · cases hreceipt : response.receipt with
    | none => exact accepts_nullable_null ⟨3, rfl⟩
    | some receipt =>
      exact accepts_nullable (accepts_definition rfl (accepts_receipt hroot (h receipt hreceipt)))

theorem conforms_inspectResponse {response : InspectResponse}
    (hattempts : 0 ≤ response.attempts ∧ response.attempts ≤ 100)
    (hmax : 1 ≤ response.maxAttempts ∧ response.maxAttempts ≤ 100)
    (hreplays : 0 ≤ response.replayCount ∧ response.replayCount ≤ 1000000)
    (h : ∀ receipt ∈ response.lastReceipt, receipt.Sound) :
    Conforms inspectResponseSchema response.serialize := by
  have hroot : ShowsReceipts inspectResponseSchema := ⟨rfl⟩
  refine accepts_record (by decide) (by decide) (by decide) (by simp) ?_
  simp only [List.forall_mem_cons, List.not_mem_nil, false_implies, implies_true, and_true]
  refine ⟨⟨_, rfl, accepts_typed List.mem_cons_self⟩, ⟨_, rfl, accepts_typed List.mem_cons_self⟩,
    ⟨_, rfl, accepts_typed List.mem_cons_self⟩, ⟨_, rfl, accepts_typed List.mem_cons_self⟩,
    ⟨_, rfl, accepts_typed List.mem_cons_self⟩,
    ⟨_, rfl, accepts_definition rfl (accepts_enumeration ?_)⟩,
    ⟨_, rfl, accepts_ranged hattempts.1 hattempts.2⟩, ⟨_, rfl, accepts_ranged hmax.1 hmax.2⟩,
    ⟨_, rfl, accepts_ranged hreplays.1 hreplays.2⟩, ⟨_, rfl, accepts_definition rfl ?_⟩⟩
  · cases response.status <;> decide
  · cases hreceipt : response.lastReceipt with
    | none => exact accepts_nullable_null ⟨3, rfl⟩
    | some receipt =>
      exact accepts_nullable (accepts_definition rfl (accepts_receipt hroot (h receipt hreceipt)))

theorem conforms_replayResponse {response : ReplayResponse}
    (h : 1 ≤ response.replayCount ∧ response.replayCount ≤ 1000000) :
    Conforms replayResponseSchema response.serialize := by
  refine accepts_record (by decide) (by decide) (by decide) (by simp) ?_
  simp only [List.forall_mem_cons, List.not_mem_nil, false_implies, implies_true, and_true]
  exact ⟨_, rfl, accepts_ranged h.1 h.2⟩

/-! ### Errors that conform -/

/-- An error schema with the codes of the known errors admits them and no other error. -/
theorem conforms_errors_iff {ε : Type} {codes : ErrorCodes ε} {names : List String}
    (hnodup : names.Nodup) (hnames : ∀ error, codes.code error ∈ names)
    (error : DomainError ε) :
    Conforms (.object ([draft] ++ [constants names])) (error.serialize codes) ↔
      ∃ known, error = .known known := by
  rw [Conforms, accepts_constants_iff (by decide) hnodup]
  constructor
  · rintro ⟨name, -, hname⟩
    rcases error with known | unknown
    · exact ⟨known, rfl⟩
    · cases hname
  · rintro ⟨known, rfl⟩
    exact ⟨codes.code known, hnames known, rfl⟩

/-- **The error schemas admit the known errors and no other.** -/
theorem conforms_known_iff :
    (∀ error : DomainError EnqueueError,
      Conforms enqueueErrorSchema (error.serialize enqueueErrorCodes) ↔ ∃ e, error = .known e) ∧
    (∀ error : DomainError DispatchError,
      Conforms dispatchErrorSchema (error.serialize dispatchErrorCodes) ↔ ∃ e, error = .known e) ∧
    (∀ error : DomainError InspectError,
      Conforms inspectErrorSchema (error.serialize inspectErrorCodes) ↔ ∃ e, error = .known e) ∧
    (∀ error : DomainError ReplayError,
      Conforms replayErrorSchema (error.serialize replayErrorCodes) ↔ ∃ e, error = .known e) :=
  ⟨conforms_errors_iff (by decide) fun e => by cases e <;> decide,
    conforms_errors_iff (by decide) fun e => by cases e; decide,
    conforms_errors_iff (by decide) fun e => by cases e <;> decide,
    conforms_errors_iff (by decide) fun e => by cases e <;> decide⟩

/-! ### Answers that conform -/

/-- What the caller of an operation is handed is what the two schemas demand. -/
def NativeResult.Conforms {ε ρ : Type} (responseSchema errorSchema : Json) (serialize : ρ → Json)
    (codes : ErrorCodes ε) : NativeResult ε ρ → Prop
  | .ok (.ok response) => OutboundWebhook.Conforms responseSchema (serialize response)
  | .ok (.error error) =>
    OutboundWebhook.Conforms errorSchema ((DomainError.known error).serialize codes)
  | .error _ => True

def Answer.Conforms : Answer → Prop
  | .enqueue answer => (nativeEnqueue answer).Conforms enqueueResponseSchema enqueueErrorSchema
    EnqueueResponse.serialize enqueueErrorCodes
  | .dispatch answer => (nativeDispatch answer).Conforms dispatchResponseSchema dispatchErrorSchema
    DispatchResponse.serialize dispatchErrorCodes
  | .inspect answer => (nativeInspect answer).Conforms inspectResponseSchema inspectErrorSchema
    InspectResponse.serialize inspectErrorCodes
  | .replay answer => (nativeReplay answer).Conforms replayResponseSchema replayErrorSchema
    ReplayResponse.serialize replayErrorCodes

section Answers

variable {P : Platform}

/-- A receipt that could be formatted may be shown if its attempt may be. -/
theorem responseReceipt_sound {ε : Type} {receipt : DeliveryReceipt} {shown : ResponseReceipt}
    (h : (responseReceipt P receipt : Except (Abort ε) ResponseReceipt) = .ok shown)
    (hattempt : 1 ≤ receipt.attempt ∧ receipt.attempt ≤ 100) : shown.Sound := by
  obtain ⟨htime, heq, -⟩ := responseReceipt_eq_ok_iff.mp h
  exact ⟨heq ▸ hattempt, P.formatRfc3339_shape _ _ htime⟩

theorem Step.dispatch_sound {s t : Sys P} {label : Label P} (h : Step s label t) (hinv : s.Inv)
    {response : DispatchResponse}
    (hanswer : label.observation.answer = some (.dispatch (.ok response))) :
    ∀ receipt ∈ response.receipt, receipt.Sound := by
  rcases h.dispatch_answer_inv hanswer with rfl | ⟨p, hp, conclusion, houtcome, hresult, -⟩
  · intro receipt hreceipt
    cases hreceipt
  · obtain ⟨outcome, hdispatch⟩ := houtcome.reportsReceipt response hresult
    obtain ⟨shown, hshown, rfl⟩ := dispatchResponse_inv (hdispatch.symm.trans hresult)
    obtain ⟨delivery, hdelivery, hfor⟩ := houtcome.forDelivery
    have hknown := hinv.known p hp delivery hdelivery
    rintro receipt ⟨⟩
    refine responseReceipt_sound hshown ?_
    rw [hfor.attempt]
    exact ⟨hknown.attempts.1, hknown.attempts.2.trans hknown.maxAttempts⟩

/-- The numbers an inspect shows, and its receipt. -/
theorem inspectResponse_inv {ε : Type} {delivery : DeliveryRecord} {response : InspectResponse}
    (h : (inspectResponse P delivery : Except (Abort ε) InspectResponse) = .ok response) :
    response.attempts = delivery.attempts ∧ response.maxAttempts = delivery.maxAttempts ∧
      response.replayCount = delivery.replayCount ∧
      ∀ shown ∈ response.lastReceipt, ∃ receipt ∈ delivery.lastReceipt,
        (responseReceipt P receipt : Except (Abort ε) ResponseReceipt) = .ok shown := by
  obtain ⟨lastReceipt, hshown, rfl⟩ := inspectResponse_shown h
  refine ⟨rfl, rfl, rfl, ?_⟩
  rintro shown ⟨⟩
  rcases shown_cases hshown with ⟨-, hnone⟩ | ⟨receipt, value, hlast, ⟨⟩, hreceipt⟩
  · cases hnone
  · exact ⟨receipt, hlast, hreceipt⟩

theorem lastReceipt_bounds {s : Sys P} (hinv : s.Inv) {id : String} {receipt : DeliveryReceipt}
    (h : lastReceipt s.db id = some receipt) : 1 ≤ receipt.attempt ∧ receipt.attempt ≤ 100 := by
  rw [lastReceipt_eq_getLast? (hinv.ledger id)] at h
  obtain ⟨a, ha, rfl⟩ := Option.map_eq_some_iff.mp h
  have hmem := (Db.mem_receipts.mp (List.mem_of_getLast? ha)).1
  exact (AttemptRow.violation_eq_none_iff.mp (s.db.attempts_check a hmem)).1

theorem Step.inspect_sound {labels : List (Label P)} {s t : Sys P} {label : Label P}
    (hrun : (system P).Run labels s) (h : Step s label t) {response : InspectResponse}
    (hanswer : label.observation.answer = some (.inspect (.ok response))) :
    Conforms inspectResponseSchema response.serialize := by
  obtain ⟨p, hp, delivery, -, htask, hresponse⟩ := h.inspected_inv hanswer
  obtain ⟨-, -, -, s₁, -, -, -, -, -, -, -, hload⟩ := (readBy_of_run hrun hp htask).once
  obtain ⟨row, hrow, hrecord⟩ := Option.map_eq_some_iff.mp hload
  have hchecks := DeliveryRow.violation_eq_none_iff.mp
    (s₁.db.deliveries_check row (Db.delivery_eq_some_iff.mp hrow).1)
  obtain ⟨hattempts, hmax, hreplays, hreceipt⟩ := inspectResponse_inv hresponse
  subst hrecord
  refine conforms_inspectResponse ?_ ?_ ?_ ?_
  · rw [hattempts]
    exact ⟨hchecks.1.1, hchecks.1.2.1.trans hchecks.1.2.2.2⟩
  · rw [hmax]
    exact hchecks.1.2.2
  · rw [hreplays]
    exact hchecks.2.2
  · intro shown hshown
    obtain ⟨receipt, hlast, hformatted⟩ := hreceipt shown hshown
    exact responseReceipt_sound hformatted
      (lastReceipt_bounds (reachable_inv hrun.reachable) hlast)

theorem Step.replay_sound {s t : Sys P} {label : Label P} (h : Step s label t)
    {response : ReplayResponse}
    (hanswer : label.observation.answer = some (.replay (.ok response))) :
    1 ≤ response.replayCount ∧ response.replayCount ≤ 1000000 := by
  generalize hreply : (Except.ok response : Except (Abort AdminFlowError) ReplayResponse) = reply
    at hanswer
  cases h.endsReplay hanswer with
  | refused => cases hreply
  | notDeadLetter => cases hreply
  | @stored p id hp htask haction hdb =>
    obtain ⟨db', hok, -, -⟩ := beginReplay_eq_ok label.begins id s.db
    rw [transact_of_eq_ok hok] at hreply
    cases hfound : (s.db.delivery id).filter (DeliveryRow.isReplayable id) with
    | none =>
      rw [hfound] at hreply
      cases hreply
    | some row =>
      rw [hfound, Option.map_some, replayAnswer, Except.ok.injEq] at hreply
      obtain ⟨hrow, hreplayable⟩ := Option.filter_eq_some_iff.mp hfound
      have hchecks := DeliveryRow.violation_eq_none_iff.mp
        (s.db.deliveries_check row (Db.delivery_eq_some_iff.mp hrow).1)
      have hcycles := (DeliveryRow.isReplayable_iff.mp hreplayable).2.2
      have hcount : response.replayCount = row.replayCount + 1 := by
        rw [hreply]
        rfl
      omega

/-- **Whatever an operation answers is what its schema promises.** -/
theorem answers_conform (P : Platform) {s t : Sys P} {label : Label P}
    (hs : (system P).Reachable s) (hstep : (system P).step s label t) {answer : Answer}
    (hanswer : label.observation.answer = some answer) : answer.Conforms := by
  obtain ⟨henqueue, hdispatch, hinspect, hreplay⟩ := conforms_known_iff
  cases answer with
  | enqueue answer =>
    rw [Answer.Conforms]
    rcases answer with ((error | error) | message) | response
    · exact (henqueue _).mpr ⟨error, rfl⟩
    · trivial
    · trivial
    · exact conforms_enqueueResponse response
  | dispatch answer =>
    rw [Answer.Conforms]
    rcases answer with ((error | error | error | error) | message) | response
    case ok =>
      exact conforms_dispatchResponse (Step.dispatch_sound hstep (reachable_inv hs) hanswer)
    case error.error.dispatch => exact (hdispatch _).mpr ⟨error, rfl⟩
    all_goals trivial
  | inspect answer =>
    rw [Answer.Conforms]
    rcases answer with ((error | error | error | error) | message) | response
    case ok =>
      obtain ⟨labels, hrun⟩ := hs
      exact Step.inspect_sound hrun hstep hanswer
    case error.error.inspect => exact (hinspect _).mpr ⟨error, rfl⟩
    all_goals trivial
  | replay answer =>
    rw [Answer.Conforms]
    rcases answer with ((error | error | error | error) | message) | response
    case ok => exact conforms_replayResponse (Step.replay_sound hstep hanswer)
    case error.error.replay => exact (hreplay _).mpr ⟨error, rfl⟩
    all_goals trivial

end Answers

/-- An inspect that has seen the receipt of a later state conforms too. -/
theorem answers_conform_overtaken :
    ∃ (s t : Sys reference) (label : Label reference) (response : InspectResponse),
      (system reference).Reachable s ∧ (system reference).step s label t ∧
      label.observation.answer = some (.inspect (.ok response)) ∧
      response.lastReceipt.map ResponseReceipt.attempt = some 1 ∧
      Conforms inspectResponseSchema response.serialize := by
  obtain ⟨before, first, after, s₁, s₁', s, label, t, response, hrun, hfirst, hpath, hstep, -,
    hanswer, -, -, -, hreceipt⟩ := exists_overtaken_inspect
  have hs := (hrun.reachable.step hfirst).path hpath
  exact ⟨s, t, label, response, hs, hstep, hanswer, hreceipt,
    answers_conform reference hs hstep hanswer⟩

end OutboundWebhook
