import OutboundWebhook.Service

/-!
# Domain errors on the wire

The generated contract code reads and writes the domain errors of an operation by hand. A known
error is a string, its code. Everything else that has a code is kept as it came: the code, the
payload, and the other members of the object (`UnknownDomainError`), so that a caller built against
an older contract can hand on what it does not know.

## What survives

Whatever has been read is written in a form that is read as the same error. An unknown error that
was built by hand survives exactly when its other members do not claim the names `code` and
`payload`: these are written a second time, and the later member wins.

A known code inside an object stays an unknown error. Only the bare string is the known one.

## Main results

* `domain_error_round_trip`
-/

namespace OutboundWebhook

/-! ### Maps -/

/-- An entry put in its place. One of that name that is there already stays. -/
def placeEntry (entry : String × Json) : List (String × Json) → List (String × Json)
  | [] => [entry]
  | next :: rest =>
    if entry.1 < next.1 then entry :: next :: rest
    else if next.1 < entry.1 then next :: placeEntry entry rest
    else next :: rest

theorem mem_placeEntry {entry e : String × Json} {entries : List (String × Json)}
    (h : e ∈ placeEntry entry entries) : e = entry ∨ e ∈ entries := by
  induction entries with
  | nil => exact .inl (List.mem_singleton.mp h)
  | cons next rest ih =>
    rw [placeEntry] at h
    split_ifs at h
    · exact List.mem_cons.mp h
    · rcases List.mem_cons.mp h with rfl | h
      · exact .inr List.mem_cons_self
      · exact (ih h).imp_right (List.mem_cons_of_mem next)
    · exact .inr h

theorem pairwise_placeEntry (entry : String × Json) {entries : List (String × Json)}
    (h : entries.Pairwise fun a b => a.1 < b.1) :
    (placeEntry entry entries).Pairwise fun a b => a.1 < b.1 := by
  induction entries with
  | nil => exact List.pairwise_singleton _ _
  | cons next rest ih =>
    obtain ⟨hnext, hrest⟩ := List.pairwise_cons.mp h
    rw [placeEntry]
    split_ifs with hbefore hafter
    · refine List.pairwise_cons.mpr ⟨?_, h⟩
      intro e he
      rcases List.mem_cons.mp he with rfl | he
      · exact hbefore
      · exact hbefore.trans (hnext e he)
    · refine List.pairwise_cons.mpr ⟨?_, ih hrest⟩
      intro e he
      rcases mem_placeEntry he with rfl | he
      · exact hafter
      · exact hnext e he
    · exact h

theorem pairwise_foldr_placeEntry (members : List (String × Json)) :
    (members.foldr placeEntry []).Pairwise fun a b => a.1 < b.1 := by
  induction members with
  | nil => exact List.Pairwise.nil
  | cons entry rest ih => exact pairwise_placeEntry entry ih

/-- `collect::<BTreeMap<_, _>>()`. The last member of a name wins. -/
def BTreeMap.collect (members : List (String × Json)) : BTreeMap where
  entries := members.foldr placeEntry []
  sorted := pairwise_foldr_placeEntry members

theorem mem_collect {members : List (String × Json)} {e : String × Json}
    (h : e ∈ (BTreeMap.collect members).entries) : e ∈ members := by
  rw [BTreeMap.collect] at h
  induction members with
  | nil => exact h
  | cons entry rest ih =>
    rcases mem_placeEntry h with rfl | h
    · exact List.mem_cons_self
    · exact List.mem_cons_of_mem entry (ih h)

/-- Entries that are in order stay as they are. -/
theorem BTreeMap.collect_entries (m : BTreeMap) : collect m.entries = m := by
  obtain ⟨entries, sorted⟩ := m
  rw [collect, BTreeMap.mk.injEq]
  induction entries with
  | nil => rfl
  | cons entry rest ih =>
    obtain ⟨hfirst, hrest⟩ := List.pairwise_cons.mp sorted
    rw [List.foldr_cons, ih hrest]
    rcases rest with _ | ⟨next, rest⟩
    · rfl
    · rw [placeEntry, if_pos (hfirst next List.mem_cons_self)]

/-- The value of the last member of that name, which is the one a map holds. -/
def lastOf (name : String) (members : List (String × Json)) : Option Json :=
  members.reverse.lookup name

theorem lastOf_cons (name : String) (member : String × Json) (rest : List (String × Json)) :
    lastOf name (member :: rest) =
      (lastOf name rest).or (if name = member.1 then some member.2 else none) := by
  rw [lastOf, List.reverse_cons, List.lookup_append, lastOf]
  congr 1
  by_cases h : name = member.1
  · rw [if_pos h, List.lookup_cons, beq_iff_eq.mpr h]
  · rw [if_neg h, List.lookup_cons, beq_eq_false_iff_ne.mpr h]
    rfl

theorem lastOf_eq_none {name : String} {members : List (String × Json)}
    (h : ∀ member ∈ members, member.1 ≠ name) : lastOf name members = none := by
  induction members with
  | nil => rfl
  | cons member rest ih =>
    obtain ⟨hmember, hrest⟩ := List.forall_mem_cons.mp h
    rw [lastOf_cons, ih hrest, if_neg (Ne.symm hmember)]
    rfl

/-! ### Errors and their codes -/

/-- The errors an operation knows, and the strings they are. -/
structure ErrorCodes (ε : Type) where
  code : ε → String
  ofCode : String → Option ε
  ofCode_code : ∀ error, ofCode (code error) = some error
  code_of_ofCode : ∀ code' error, ofCode code' = some error → code error = code'

structure UnknownDomainError where
  code : String
  payload : Option Json
  extra : BTreeMap

/-- An error of the generated code, with its variant for what it does not know. -/
inductive DomainError (ε : Type)
  | known (error : ε)
  | unknown (error : UnknownDomainError)

variable {ε : Type}

def DomainError.serialize (codes : ErrorCodes ε) : DomainError ε → Json
  | .known error => .string (codes.code error)
  | .unknown value =>
    .object (("code", .string value.code) ::
      (value.payload.map fun payload => ("payload", payload)).toList ++ value.extra.entries)

def DomainError.deserialize (codes : ErrorCodes ε) : Json → Except String (DomainError ε)
  | .string code =>
    match codes.ofCode code with
    | some error => .ok (.known error)
    | none => .ok (.unknown { code := code, payload := none, extra := .collect [] })
  | .object object =>
    match lastOf "code" object with
    | some (.string code) =>
      .ok (.unknown {
        code := code
        payload := lastOf "payload" object
        extra := .collect (object.filter fun member =>
          member.1 != "code" && member.1 != "payload") })
    | _ => .error "Domain Error object is missing a string code"
  | other =>
    .error ("Domain Error must be a string or object, got " ++ String.ofList other.render)

/-! ### The four operations -/

def enqueueErrorCodes : ErrorCodes EnqueueError where
  code
    | .forbidden => "forbidden"
    | .idempotencyConflict => "idempotency_conflict"
    | .invalidEvent => "invalid_event"
  ofCode code :=
    if code = "forbidden" then some .forbidden
    else if code = "idempotency_conflict" then some .idempotencyConflict
    else if code = "invalid_event" then some .invalidEvent
    else none
  ofCode_code error := by cases error <;> rfl
  code_of_ofCode code' error h := by
    split_ifs at h <;> cases h <;> simp [*]

def dispatchErrorCodes : ErrorCodes DispatchError where
  code
    | .forbidden => "forbidden"
  ofCode code := if code = "forbidden" then some .forbidden else none
  ofCode_code error := by cases error; rfl
  code_of_ofCode code' error h := by
    split_ifs at h; cases h; simp [*]

def inspectErrorCodes : ErrorCodes InspectError where
  code
    | .forbidden => "forbidden"
    | .invalidDelivery => "invalid_delivery"
    | .notFound => "not_found"
  ofCode code :=
    if code = "forbidden" then some .forbidden
    else if code = "invalid_delivery" then some .invalidDelivery
    else if code = "not_found" then some .notFound
    else none
  ofCode_code error := by cases error <;> rfl
  code_of_ofCode code' error h := by
    split_ifs at h <;> cases h <;> simp [*]

def replayErrorCodes : ErrorCodes ReplayError where
  code
    | .forbidden => "forbidden"
    | .invalidDelivery => "invalid_delivery"
    | .notDeadLetter => "not_dead_letter"
    | .notFound => "not_found"
  ofCode code :=
    if code = "forbidden" then some .forbidden
    else if code = "invalid_delivery" then some .invalidDelivery
    else if code = "not_dead_letter" then some .notDeadLetter
    else if code = "not_found" then some .notFound
    else none
  ofCode_code error := by cases error <;> rfl
  code_of_ofCode code' error h := by
    split_ifs at h <;> cases h <;> simp [*]

/-! ### The round trip -/

/-- The other members claim neither of the two names. -/
def UnknownDomainError.Free (value : UnknownDomainError) : Prop :=
  ∀ member ∈ value.extra.entries, member.1 ≠ "code" ∧ member.1 ≠ "payload"

def DomainError.Free : DomainError ε → Prop
  | .known _ => True
  | .unknown value => value.Free

section RoundTrip

variable {codes : ErrorCodes ε}

theorem deserialize_known (error : ε) :
    DomainError.deserialize codes (.string (codes.code error)) = .ok (.known error) := by
  rw [DomainError.deserialize, codes.ofCode_code]

/-- Whatever is read is free. -/
theorem free_of_deserialize {value : Json} {error : DomainError ε}
    (h : DomainError.deserialize codes value = .ok error) : error.Free := by
  rcases error with error | unknown
  · trivial
  intro member hmember
  rcases value with _ | _ | _ | _ | code | _ | object
  case string =>
    rw [DomainError.deserialize] at h
    split at h <;> cases h
    exact absurd hmember List.not_mem_nil
  case object =>
    rw [DomainError.deserialize] at h
    split at h <;> cases h
    have hfilter := (List.mem_filter.mp (mem_collect hmember)).2
    simpa using hfilter
  all_goals cases h

theorem lastOf_payload {value : UnknownDomainError} (hfree : value.Free) {name : String}
    (hname : name = "code" ∨ name = "payload") :
    lastOf name ((value.payload.map fun payload => ("payload", payload)).toList
      ++ value.extra.entries) = if name = "payload" then value.payload else none := by
  have hnone : lastOf name value.extra.entries = none := by
    refine lastOf_eq_none ?_
    intro member hmember
    rcases hname with rfl | rfl
    · exact (hfree member hmember).1
    · exact (hfree member hmember).2
  cases value.payload with
  | none =>
    rw [Option.map_none, Option.toList_none, List.nil_append, hnone, ite_self]
  | some payload =>
    rw [Option.map_some, Option.toList_some, List.singleton_append, lastOf_cons, hnone,
      Option.none_or]

theorem deserialize_unknown {value : UnknownDomainError} (hfree : value.Free) :
    DomainError.deserialize codes (DomainError.serialize codes (.unknown value)) =
      .ok (.unknown value) := by
  obtain ⟨code, payload, extra⟩ := value
  have hextra : (extra.entries.filter fun member =>
      member.1 != "code" && member.1 != "payload") = extra.entries := by
    refine List.filter_eq_self.mpr ?_
    intro member hmember
    simpa using hfree member hmember
  have hpayload : ((payload.map fun payload => ("payload", payload)).toList.filter
      fun member => member.1 != "code" && member.1 != "payload") = [] := by
    cases payload <;> rfl
  rw [DomainError.serialize, DomainError.deserialize, List.cons_append, lastOf_cons,
    lastOf_payload hfree (.inl rfl), lastOf_cons, lastOf_payload hfree (.inr rfl),
    List.filter_cons_of_neg (by simp), List.filter_append, hpayload, hextra, List.nil_append,
    BTreeMap.collect_entries]
  cases payload <;> rfl

end RoundTrip

/-- **The round trip of domain errors.** What has been read is read again from what is written for
it; an error survives the round trip exactly if it is free; a known error is its code and nothing
else; and all that has a code is read. -/
theorem domain_error_round_trip (codes : ErrorCodes ε) :
    (∀ value error, DomainError.deserialize codes value = .ok error →
      DomainError.deserialize codes (error.serialize codes) = .ok error) ∧
    (∀ error : DomainError ε,
      DomainError.deserialize codes (error.serialize codes) = .ok error ↔ error.Free) ∧
    (∀ value error, DomainError.deserialize codes value = .ok (.known error) ↔
      value = .string (codes.code error)) ∧
    ∀ value, (∃ error, DomainError.deserialize codes value = .ok error) ↔
      (∃ code, value = .string code) ∨
        ∃ object code, value = .object object ∧ lastOf "code" object = some (.string code) := by
  have hfree : ∀ error : DomainError ε, error.Free →
      DomainError.deserialize codes (error.serialize codes) = .ok error := by
    rintro (error | value) h
    · exact deserialize_known error
    · exact deserialize_unknown h
  refine ⟨fun value error h => hfree error (free_of_deserialize h),
    fun error => ⟨free_of_deserialize, hfree error⟩, ?_, ?_⟩
  · intro value error
    constructor
    · intro h
      rcases value with _ | _ | _ | _ | code | _ | object
      case string =>
        rw [DomainError.deserialize] at h
        split at h
        · rename_i found hfound
          cases h
          rw [codes.code_of_ofCode _ _ hfound]
        · cases h
      case object =>
        rw [DomainError.deserialize] at h
        split at h <;> cases h
      all_goals cases h
    · rintro rfl
      exact deserialize_known error
  · intro value
    constructor
    · rintro ⟨error, h⟩
      rcases value with _ | _ | _ | _ | code | _ | object
      case string => exact .inl ⟨code, rfl⟩
      case object =>
        rw [DomainError.deserialize] at h
        split at h
        · exact .inr ⟨object, _, rfl, ‹_›⟩
        · cases h
      all_goals cases h
    · rintro (⟨code, rfl⟩ | ⟨object, code, rfl, hcode⟩)
      · rw [DomainError.deserialize]
        split
        · exact ⟨_, rfl⟩
        · exact ⟨_, rfl⟩
      · rw [DomainError.deserialize, hcode]
        exact ⟨_, rfl⟩

/-- An error of a newer contract is handed on. -/
theorem domain_error_round_trip_newer :
    ∃ error, DomainError.deserialize enqueueErrorCodes
        (.object [("retry_after", .number 5), ("code", .string "throttled")]) = .ok error ∧
      DomainError.deserialize enqueueErrorCodes (error.serialize enqueueErrorCodes) = .ok error ∧
      ∀ known, error ≠ .known known := by
  obtain ⟨hstable, -, hknown, hread⟩ := domain_error_round_trip enqueueErrorCodes
  have hcode : lastOf "code" [("retry_after", .number 5), ("code", .string "throttled")]
      = some (.string "throttled") := rfl
  obtain ⟨error, herror⟩ := (hread _).mpr (.inr ⟨_, _, rfl, hcode⟩)
  refine ⟨error, herror, hstable _ _ herror, ?_⟩
  rintro known rfl
  cases (hknown _ known).mp herror

end OutboundWebhook
