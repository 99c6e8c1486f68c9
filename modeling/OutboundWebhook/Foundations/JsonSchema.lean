import OutboundWebhook.Foundations.Json
import Mathlib.Data.List.Nodup

/-!
# JSON Schema

A schema is itself a JSON document: `true`, `false`, or an object whose members are keywords.
`verdict` judges a value by the keywords of draft 2020-12 that state types, enumerations,
alternatives, closed records, bounds and formats, and that refer to the definitions of the
document. Every other keyword is an annotation. What a format demands is a parameter.

## No verdict

There is none where a reference leads nowhere, a keyword has an argument of the wrong kind, or the
fuel is used up by references that go in a circle. So `verdict` has three answers, and a schema
accepts a value if some fuel says so (`Accepts`). More fuel never changes an answer
(`verdict_mono`).

A number that is not written as an integer is not compared with another one: no value that is
judged holds one.

## Main results

* `verdict_mono` — fuel only decides whether there is a verdict
* `accepts_object_iff` — an object of keywords is judged keyword by keyword
* `accepts_record` — a closed record is judged field by field
-/

namespace JsonSchema

/-! ### Values -/

/-- The types a value has. -/
def typeNames : Json → List String
  | .null => ["null"]
  | .bool _ => ["boolean"]
  | .number _ => ["integer", "number"]
  | .decimal _ => ["number"]
  | .string _ => ["string"]
  | .array _ => ["array"]
  | .object _ => ["object"]

mutual

/-- Equality of values. The members of an object have no order. -/
def same : Json → Json → Bool
  | .null, .null => true
  | .bool b, .bool b' => b == b'
  | .number n, .number n' => n == n'
  | .decimal text, .decimal text' => text == text'
  | .string s, .string s' => s == s'
  | .array items, .array items' => sameItems items items'
  | .object members, .object members' =>
    members.length == members'.length && sameMembers members members'
  | _, _ => false

def sameItems : List Json → List Json → Bool
  | [], [] => true
  | item :: rest, item' :: rest' => same item item' && sameItems rest rest'
  | _, _ => false

def sameMembers : List (String × Json) → List (String × Json) → Bool
  | [], _ => true
  | (name, value) :: rest, members =>
    (match members.lookup name with
      | some value' => same value value'
      | none => false) && sameMembers rest members

end

/-- The texts of an array of strings. -/
def texts (items : List Json) : Option (List String) :=
  items.mapM fun
    | .string s => some s
    | _ => none

/-! ### Counting verdicts -/

section Tally

variable {α : Type*}

/-- How many of them are good, if there is a verdict on each. -/
def tally (judge : α → Option Bool) : List α → Option ℕ
  | [] => some 0
  | a :: rest => (judge a).bind fun good => (tally judge rest).map fun n => good.toNat + n

/-- Whether all of them are good. -/
def every (judge : α → Option Bool) (l : List α) : Option Bool :=
  (tally judge l).map fun n => n == l.length

variable {f g : α → Option Bool} {l : List α} {n : ℕ}

theorem tally_cons {a : α} :
    tally f (a :: l) = some n ↔
      ∃ good, f a = some good ∧ ∃ m, tally f l = some m ∧ good.toNat + m = n := by
  simp [tally, Option.bind_eq_some_iff]

theorem tally_le (h : tally f l = some n) : n ≤ l.length := by
  induction l generalizing n with
  | nil => exact (Option.some.inj h).symm.le
  | cons a rest ih =>
    obtain ⟨good, -, m, hm, rfl⟩ := tally_cons.mp h
    have hgood := good.toNat_le
    have hrest := ih hm
    rw [List.length_cons]
    omega

theorem exists_tally (h : ∀ a ∈ l, (f a).isSome) : ∃ n, tally f l = some n := by
  induction l with
  | nil => exact ⟨0, rfl⟩
  | cons a rest ih =>
    obtain ⟨good, ha⟩ := Option.isSome_iff_exists.mp (h a List.mem_cons_self)
    obtain ⟨m, hm⟩ := ih fun b hb => h b (List.mem_cons_of_mem a hb)
    exact ⟨_, tally_cons.mpr ⟨good, ha, m, hm, rfl⟩⟩

theorem tally_pos {a : α} (h : tally f l = some n) (ha : a ∈ l) (hgood : f a = some true) :
    0 < n := by
  induction l generalizing n with
  | nil => exact absurd ha List.not_mem_nil
  | cons b rest ih =>
    obtain ⟨good, hb, m, hm, rfl⟩ := tally_cons.mp h
    rcases List.mem_cons.mp ha with rfl | ha
    · rw [hgood] at hb
      cases hb
      exact Nat.lt_add_right m Nat.one_pos
    · exact Nat.lt_add_left _ (ih hm ha)

/-- A judge that knows more tells the same of what both know. -/
theorem tally_mono (hfg : ∀ a ∈ l, ∀ good, f a = some good → g a = some good)
    (h : tally f l = some n) : tally g l = some n := by
  induction l generalizing n with
  | nil => exact h
  | cons a rest ih =>
    obtain ⟨good, ha, m, hm, rfl⟩ := tally_cons.mp h
    refine tally_cons.mpr ⟨good, hfg a List.mem_cons_self good ha, m, ?_, rfl⟩
    exact ih (fun b hb => hfg b (List.mem_cons_of_mem a hb)) hm

theorem tally_congr (hfg : ∀ a ∈ l, f a = g a) : tally f l = tally g l := by
  induction l with
  | nil => rfl
  | cons a rest ih =>
    rw [tally, tally, hfg a List.mem_cons_self, ih fun b hb => hfg b (List.mem_cons_of_mem a hb)]

theorem tally_map {β : Type*} (f : β → Option Bool) (g : α → β) (l : List α) :
    tally f (l.map g) = tally (fun a => f (g a)) l := by
  induction l with
  | nil => rfl
  | cons a rest ih => rw [List.map_cons, tally, tally, ih]

theorem tally_some (p : α → Bool) (l : List α) :
    tally (fun a => some (p a)) l = some (l.countP p) := by
  induction l with
  | nil => rfl
  | cons a rest ih =>
    rw [tally, ih, List.countP_cons]
    cases p a <;> simp [add_comm]

theorem every_eq_some_true_iff : every f l = some true ↔ ∀ a ∈ l, f a = some true := by
  induction l with
  | nil => simp [every, tally]
  | cons a rest ih =>
    rw [List.forall_mem_cons, ← ih]
    constructor
    · intro h
      obtain ⟨n, hn, hlength⟩ := Option.map_eq_some_iff.mp h
      obtain ⟨good, ha, m, hm, rfl⟩ := tally_cons.mp hn
      have hle := tally_le hm
      rw [beq_iff_eq, List.length_cons] at hlength
      rcases good with rfl | rfl
      · rw [Bool.toNat_false] at hlength
        omega
      · rw [Bool.toNat_true] at hlength
        refine ⟨ha, ?_⟩
        rw [every, hm, Option.map_some, Option.some.injEq, beq_iff_eq]
        omega
    · rintro ⟨ha, hrest⟩
      obtain ⟨m, hm, hlength⟩ := Option.map_eq_some_iff.mp hrest
      rw [beq_iff_eq] at hlength
      have hn : tally f (a :: rest) = some (1 + m) := tally_cons.mpr ⟨true, ha, m, hm, rfl⟩
      rw [every, hn, Option.map_some, Option.some.injEq, beq_iff_eq, List.length_cons]
      omega

theorem every_mono {good : Bool} (hfg : ∀ a ∈ l, ∀ b, f a = some b → g a = some b)
    (h : every f l = some good) : every g l = some good := by
  obtain ⟨n, hn, hgood⟩ := Option.map_eq_some_iff.mp h
  rw [every, tally_mono hfg hn, Option.map_some, hgood]

theorem every_map {β : Type*} (f : β → Option Bool) (g : α → β) (l : List α) :
    every f (l.map g) = every (fun a => f (g a)) l := by
  rw [every, every, tally_map, List.length_map]

theorem every_congr (hfg : ∀ a ∈ l, f a = g a) : every f l = every g l := by
  rw [every, every, tally_congr hfg]

theorem every_eq_none_iff : every f l = none ↔ ∃ a ∈ l, f a = none := by
  rw [every, Option.map_eq_none_iff]
  constructor
  · intro h
    by_contra hnone
    push Not at hnone
    obtain ⟨n, hn⟩ := exists_tally fun a ha => Option.isSome_iff_ne_none.mpr (hnone a ha)
    rw [h] at hn
    cases hn
  · rintro ⟨a, ha, hnone⟩
    induction l with
    | nil => cases ha
    | cons b rest ih =>
      rcases List.mem_cons.mp ha with rfl | ha
      · rw [tally, hnone, Option.bind_none]
      · rw [tally, ih ha]
        simp

/-- Conditions that are decided and follow from the others may be left out. -/
theorem every_filter {p : α → Bool} (hdecided : ∀ a ∈ l, p a = false → (f a).isSome)
    (himplied : (∀ a ∈ l, p a → f a = some true) → ∀ a ∈ l, p a = false → f a = some true) :
    every f (l.filter p) = every f l := by
  have hnone : every f (l.filter p) = none ↔ every f l = none := by
    rw [every_eq_none_iff, every_eq_none_iff]
    constructor
    · rintro ⟨a, ha, hnone⟩
      exact ⟨a, List.mem_of_mem_filter ha, hnone⟩
    · rintro ⟨a, ha, hnone⟩
      refine ⟨a, List.mem_filter.mpr ⟨ha, ?_⟩, hnone⟩
      by_contra hp
      have hsome := hdecided a ha (Bool.eq_false_iff.mpr hp)
      rw [hnone] at hsome
      cases hsome
  have htrue : every f (l.filter p) = some true ↔ every f l = some true := by
    rw [every_eq_some_true_iff, every_eq_some_true_iff]
    constructor
    · intro h
      have hkept : ∀ a ∈ l, p a → f a = some true :=
        fun a ha hp => h a (List.mem_filter.mpr ⟨ha, hp⟩)
      intro a ha
      by_cases hp : p a
      · exact hkept a ha hp
      · exact himplied hkept a ha (Bool.eq_false_iff.mpr hp)
    · exact fun h a ha => h a (List.mem_of_mem_filter ha)
  rcases hl : every f l with - | good
  · exact hnone.mpr hl
  rcases hfilter : every f (l.filter p) with - | good'
  · rw [hnone.mp hfilter] at hl
    cases hl
  · rw [hl, hfilter, Option.some.injEq, Option.some.injEq, ← Bool.eq_iff_iff] at htrue
    rw [htrue]

end Tally

/-! ### Verdicts -/

/-- The keywords that are more than annotations. -/
def assertions : List String :=
  ["$ref", "type", "enum", "const", "oneOf", "anyOf", "required", "properties",
    "additionalProperties", "minimum", "maximum", "format"]

/-- `#/$defs/Name` in the document. -/
def resolve (root : Json) (reference : String) : Option Json :=
  match root with
  | .object members =>
    match members.lookup "$defs" with
    | some (.object definitions) =>
      (definitions.find? fun entry => "#/$defs/" ++ entry.1 == reference).map Prod.snd
    | _ => none
  | _ => none

/-- The names `properties` declares next to a keyword. -/
def declared (siblings : List (String × Json)) : List String :=
  match siblings.lookup "properties" with
  | some (.object properties) => properties.map Prod.fst
  | _ => []

section Verdict

variable (formats : String → String → Bool) (root : Json)

/-- One keyword, with its siblings and a judge for the schemas in it. -/
def keyword (judge : Json → Json → Option Bool) (siblings : List (String × Json)) (value : Json) :
    String × Json → Option Bool
  | ("$ref", .string reference) => (resolve root reference).bind fun schema => judge schema value
  | ("type", .string name) => some ((typeNames value).contains name)
  | ("type", .array names) =>
    (texts names).map fun names => names.any fun name => (typeNames value).contains name
  | ("enum", .array values) => some (values.any fun expected => same expected value)
  | ("const", expected) => some (same expected value)
  | ("oneOf", .array schemas) =>
    (tally (fun schema => judge schema value) schemas).map fun n => n == 1
  | ("anyOf", .array schemas) =>
    (tally (fun schema => judge schema value) schemas).map fun n => n != 0
  | ("required", .array names) =>
    (texts names).map fun names =>
      match value with
      | .object members => names.all fun name => (members.lookup name).isSome
      | _ => true
  | ("properties", .object properties) =>
    match value with
    | .object members =>
      every (fun property =>
        match members.lookup property.1 with
        | some member => judge property.2 member
        | none => some true) properties
    | _ => some true
  | ("additionalProperties", schema) =>
    match value with
    | .object members =>
      every (fun member => judge schema member.2)
        (members.filter fun member => !(declared siblings).contains member.1)
    | _ => some true
  | ("minimum", .number bound) =>
    match value with
    | .number n => some (decide (bound ≤ n))
    | .decimal _ => none
    | _ => some true
  | ("maximum", .number bound) =>
    match value with
    | .number n => some (decide (n ≤ bound))
    | .decimal _ => none
    | _ => some true
  | ("format", .string name) =>
    match value with
    | .string text => some (formats name text)
    | _ => some true
  | (name, _) => if assertions.contains name then none else some true

/-- The verdict of a schema of the document `root` on a value. -/
def verdict : ℕ → Json → Json → Option Bool
  | 0, _, _ => none
  | _ + 1, .bool b, _ => some b
  | fuel + 1, .object keywords, value =>
    every (keyword formats root (verdict fuel) keywords value) keywords
  | _ + 1, _, _ => none

def Accepts (schema value : Json) : Prop :=
  ∃ fuel, verdict formats root fuel schema value = some true

def Rejects (schema value : Json) : Prop :=
  ∃ fuel, verdict formats root fuel schema value = some false

end Verdict

/-! ### More fuel -/

section Fuel

variable {formats : String → String → Bool} {root schema value : Json} {good : Bool}

theorem keyword_mono {judge judge' : Json → Json → Option Bool}
    (hjudge : ∀ schema value good, judge schema value = some good →
      judge' schema value = some good) {siblings : List (String × Json)} {k : String × Json}
    (h : keyword formats root judge siblings value k = some good) :
    keyword formats root judge' siblings value k = some good := by
  have halternatives : ∀ {schemas : List Json} {p : ℕ → Bool},
      (tally (fun schema => judge schema value) schemas).map p = some good →
      (tally (fun schema => judge' schema value) schemas).map p = some good := by
    intro schemas p h
    obtain ⟨n, hn, hp⟩ := Option.map_eq_some_iff.mp h
    rw [tally_mono (fun schema _ b hb => hjudge schema value b hb) hn, Option.map_some, hp]
  revert h
  unfold keyword
  split
  case h_1 reference =>
    intro h
    obtain ⟨schema, hschema, hverdict⟩ := Option.bind_eq_some_iff.mp h
    exact Option.bind_eq_some_iff.mpr ⟨schema, hschema, hjudge _ _ _ hverdict⟩
  case h_6 schemas => exact halternatives
  case h_7 schemas => exact halternatives
  case h_9 properties =>
    split
    · refine every_mono ?_
      intro property _ b hb
      revert hb
      split
      · exact hjudge _ _ _
      · exact id
    · exact id
  case h_10 schema =>
    split
    · exact every_mono fun member _ b hb => hjudge _ _ _ hb
    · exact id
  all_goals exact id

theorem verdict_succ {fuel : ℕ} (h : verdict formats root fuel schema value = some good) :
    verdict formats root (fuel + 1) schema value = some good := by
  induction fuel generalizing schema value good with
  | zero => cases h
  | succ fuel ih =>
    rcases schema with _ | b | _ | _ | _ | _ | keywords
    case object =>
      exact every_mono (fun k _ b hb => keyword_mono (fun _ _ _ => ih) hb) h
    case bool => exact h
    all_goals cases h

/-- **Fuel only decides whether there is a verdict.** -/
theorem verdict_mono {fuel fuel' : ℕ} (hle : fuel ≤ fuel')
    (h : verdict formats root fuel schema value = some good) :
    verdict formats root fuel' schema value = some good := by
  induction hle with
  | refl => exact h
  | step _ ih => exact verdict_succ ih

theorem Accepts.not_rejects (h : Accepts formats root schema value) :
    ¬Rejects formats root schema value := by
  rintro ⟨fuel', hbad⟩
  obtain ⟨fuel, hgood⟩ := h
  have h := verdict_mono (le_max_left fuel fuel') hgood
  rw [verdict_mono (le_max_right fuel fuel') hbad] at h
  cases h

end Fuel

/-! ### One keyword at a time -/

section Rules

variable (formats : String → String → Bool) (root : Json)

/-- The value meets a keyword. -/
def Meets (siblings : List (String × Json)) (value : Json) (k : String × Json) : Prop :=
  ∃ fuel, keyword formats root (verdict formats root fuel) siblings value k = some true

variable {formats root} {siblings keywords : List (String × Json)} {value : Json}

theorem keyword_fuel {k : String × Json} {fuel fuel' : ℕ} (hle : fuel ≤ fuel')
    (h : keyword formats root (verdict formats root fuel) siblings value k = some true) :
    keyword formats root (verdict formats root fuel') siblings value k = some true :=
  keyword_mono (fun _ _ _ => verdict_mono hle) h

/-- Fuel for one keyword after the other is fuel for all of them. -/
theorem exists_fuel {α : Type*} {Q : ℕ → α → Prop} (hmono : ∀ m n a, m ≤ n → Q m a → Q n a)
    {l : List α} (h : ∀ a ∈ l, ∃ n, Q n a) : ∃ n, ∀ a ∈ l, Q n a := by
  induction l with
  | nil => exact ⟨0, fun a ha => absurd ha List.not_mem_nil⟩
  | cons a rest ih =>
    obtain ⟨m, hm⟩ := h a List.mem_cons_self
    obtain ⟨n, hn⟩ := ih fun b hb => h b (List.mem_cons_of_mem a hb)
    refine ⟨max m n, List.forall_mem_cons.mpr ⟨hmono _ _ _ (le_max_left m n) hm, ?_⟩⟩
    intro b hb
    exact hmono _ _ _ (le_max_right m n) (hn b hb)

/-- **An object of keywords is judged keyword by keyword.** -/
theorem accepts_object_iff :
    Accepts formats root (.object keywords) value ↔
      ∀ k ∈ keywords, Meets formats root keywords value k := by
  constructor
  · rintro ⟨fuel, h⟩ k hk
    rcases fuel with _ | fuel
    · cases h
    · exact ⟨fuel, every_eq_some_true_iff.mp h k hk⟩
  · intro h
    obtain ⟨fuel, hfuel⟩ := exists_fuel (Q := fun fuel k =>
      keyword formats root (verdict formats root fuel) keywords value k = some true)
      (fun m n k => keyword_fuel) h
    exact ⟨fuel + 1, every_eq_some_true_iff.mpr hfuel⟩

theorem meets_annotation {k : String × Json} (h : k.1 ∉ assertions) :
    Meets formats root siblings value k := by
  refine ⟨0, ?_⟩
  unfold keyword
  split
  case h_14 =>
    rw [if_neg (by simpa using h)]
  all_goals simp [assertions] at h

theorem meets_ref {reference : String} {schema : Json}
    (hresolve : resolve root reference = some schema)
    (h : Accepts formats root schema value) :
    Meets formats root siblings value ("$ref", .string reference) := by
  obtain ⟨fuel, hfuel⟩ := h
  refine ⟨fuel, ?_⟩
  rw [keyword, hresolve]
  exact hfuel

theorem meets_type {name : String} (h : name ∈ typeNames value) :
    Meets formats root siblings value ("type", .string name) :=
  ⟨0, congrArg some (List.contains_iff_mem.mpr h)⟩

theorem meets_minimum {bound n : ℤ} (h : bound ≤ n) :
    Meets formats root siblings (.number n) ("minimum", .number bound) :=
  ⟨0, congrArg some (decide_eq_true h)⟩

theorem meets_maximum {bound n : ℤ} (h : n ≤ bound) :
    Meets formats root siblings (.number n) ("maximum", .number bound) :=
  ⟨0, congrArg some (decide_eq_true h)⟩

theorem meets_format {name text : String} (h : formats name text = true) :
    Meets formats root siblings (.string text) ("format", .string name) :=
  ⟨0, congrArg some h⟩

theorem texts_map_string (names : List String) : texts (names.map Json.string) = some names := by
  induction names with
  | nil => rfl
  | cons name rest ih =>
    rw [texts] at ih
    rw [List.map_cons, texts, List.mapM_cons, ih]
    rfl

section Records

variable {required : List String} {properties members : List (String × Json)}

theorem meets_required (h : ∀ name ∈ required, (members.lookup name).isSome) :
    Meets formats root siblings (.object members) ("required", .array (required.map .string)) := by
  refine ⟨0, ?_⟩
  rw [keyword, texts_map_string, Option.map_some]
  exact congrArg some (List.all_eq_true.mpr h)

theorem meets_properties
    (h : ∀ property ∈ properties, ∀ member, members.lookup property.1 = some member →
      Accepts formats root property.2 member) :
    Meets formats root siblings (.object members) ("properties", .object properties) := by
  have hfuel : ∀ property ∈ properties, ∃ fuel, ∀ member,
      members.lookup property.1 = some member →
      verdict formats root fuel property.2 member = some true := by
    intro property hproperty
    cases hlookup : members.lookup property.1 with
    | none => exact ⟨0, fun member h => by cases h⟩
    | some member =>
      obtain ⟨fuel, hfuel⟩ := h property hproperty member hlookup
      exact ⟨fuel, fun member' h => by cases h; exact hfuel⟩
  obtain ⟨fuel, hall⟩ := exists_fuel
    (fun m n property hle hm member hlookup => verdict_mono hle (hm member hlookup)) hfuel
  refine ⟨fuel, every_eq_some_true_iff.mpr ?_⟩
  intro property hproperty
  cases hlookup : members.lookup property.1 with
  | none => rfl
  | some member => exact hall property hproperty member hlookup

theorem meets_closed (h : ∀ member ∈ members, member.1 ∈ declared siblings) :
    Meets formats root siblings (.object members) ("additionalProperties", .bool false) := by
  have hnone : members.filter (fun member => !(declared siblings).contains member.1) = [] := by
    rw [List.filter_eq_nil_iff]
    intro member hmember
    simpa using h member hmember
  refine ⟨0, ?_⟩
  show every _ (members.filter _) = some true
  rw [hnone]
  rfl

/-- The keywords of a closed record. -/
def record (required : List String) (properties : List (String × Json)) : List (String × Json) :=
  [("type", .string "object"), ("required", .array (required.map .string)),
    ("properties", .object properties), ("additionalProperties", .bool false)]

/-- Annotations around a record declare nothing. -/
theorem declared_record {before after : List (String × Json)}
    (hbefore : ∀ k ∈ before, k.1 ∉ assertions) :
    declared (before ++ record required properties ++ after) = properties.map Prod.fst := by
  have hnone : before.lookup "properties" = none := by
    rw [List.lookup_eq_none_iff]
    intro k hk
    have hannotation := hbefore k hk
    rw [bne_iff_ne]
    intro hname
    rw [← hname] at hannotation
    exact hannotation (by decide)
  rw [declared, List.append_assoc, List.lookup_append, hnone, Option.none_or]
  rfl

/-- **A closed record is judged field by field.** -/
theorem accepts_record {before after : List (String × Json)}
    (hbefore : ∀ k ∈ before, k.1 ∉ assertions) (hafter : ∀ k ∈ after, k.1 ∉ assertions)
    (hrequired : required ⊆ properties.map Prod.fst)
    (hclosed : members.map Prod.fst ⊆ properties.map Prod.fst)
    (hfields : ∀ property ∈ properties, ∃ member, members.lookup property.1 = some member ∧
      Accepts formats root property.2 member) :
    Accepts formats root (.object (before ++ record required properties ++ after))
      (.object members) := by
  refine accepts_object_iff.mpr ?_
  intro k hk
  rcases List.mem_append.mp hk with hk | hk
  · rcases List.mem_append.mp hk with hk | hk
    · exact meets_annotation (hbefore k hk)
    simp only [record, List.mem_cons, List.not_mem_nil, or_false] at hk
    rcases hk with rfl | rfl | rfl | rfl
    · exact meets_type List.mem_cons_self
    · refine meets_required ?_
      intro name hname
      obtain ⟨property, hproperty, rfl⟩ := List.mem_map.mp (hrequired hname)
      obtain ⟨member, hmember, -⟩ := hfields property hproperty
      exact Option.isSome_iff_exists.mpr ⟨member, hmember⟩
    · refine meets_properties ?_
      intro property hproperty member hmember
      obtain ⟨member', hmember', haccepts⟩ := hfields property hproperty
      cases hmember.symm.trans hmember'
      exact haccepts
    · refine meets_closed ?_
      rw [declared_record hbefore]
      intro member hmember
      exact hclosed (List.mem_map_of_mem hmember)
  · exact meets_annotation (hafter k hk)

end Records

/-! ### Small schemas -/

def typed (name : String) : Json := .object [("type", .string name)]

/-- A definition of the document. -/
def definition (name : String) : Json := .object [("$ref", .string ("#/$defs/" ++ name))]

/-- A definition of the document, or null. -/
def nullable (name : String) : Json := .object [("anyOf", .array [definition name, typed "null"])]

def enumeration (names : List String) : Json := .object [("enum", .array (names.map .string))]

def ranged (low high : ℤ) : Json :=
  .object [("type", .string "integer"), ("minimum", .number low), ("maximum", .number high)]

def formatted (name : String) : Json :=
  .object [("type", .string "string"), ("format", .string name)]

theorem accepts_typed {name : String} (h : name ∈ typeNames value) :
    Accepts formats root (typed name) value :=
  accepts_object_iff.mpr (List.forall_mem_singleton.mpr (meets_type h))

theorem accepts_definition {name : String} {schema : Json}
    (hresolve : resolve root ("#/$defs/" ++ name) = some schema)
    (h : Accepts formats root schema value) : Accepts formats root (definition name) value :=
  accepts_object_iff.mpr (List.forall_mem_singleton.mpr (meets_ref hresolve h))

theorem accepts_enumeration {names : List String} {name : String} (h : name ∈ names) :
    Accepts formats root (enumeration names) (.string name) := by
  refine accepts_object_iff.mpr (List.forall_mem_singleton.mpr ⟨0, ?_⟩)
  refine congrArg some (List.any_eq_true.mpr ⟨.string name, List.mem_map_of_mem h, ?_⟩)
  rw [same, beq_iff_eq]

theorem accepts_ranged {low high n : ℤ} (hlow : low ≤ n) (hhigh : n ≤ high) :
    Accepts formats root (ranged low high) (.number n) := by
  refine accepts_object_iff.mpr ?_
  simp only [List.forall_mem_cons, List.not_mem_nil, false_implies, implies_true, and_true]
  exact ⟨meets_type List.mem_cons_self, meets_minimum hlow, meets_maximum hhigh⟩

theorem accepts_formatted {name text : String} (h : formats name text = true) :
    Accepts formats root (formatted name) (.string text) := by
  refine accepts_object_iff.mpr ?_
  simp only [List.forall_mem_cons, List.not_mem_nil, false_implies, implies_true, and_true]
  exact ⟨meets_type List.mem_cons_self, meets_format h⟩

theorem verdict_typed (name : String) (fuel : ℕ) :
    verdict formats root (fuel + 1) (typed name) value
      = some ((typeNames value).contains name) := by
  rw [typed, verdict, every, tally, keyword, tally]
  cases (typeNames value).contains name <;> rfl

/-- One alternative accepts the value, and the others have a verdict on it. -/
theorem meets_anyOf {alternatives : List Json} {schema : Json} (fuel : ℕ)
    (hdecided : ∀ schema ∈ alternatives, (verdict formats root fuel schema value).isSome)
    (hschema : schema ∈ alternatives) (hgood : verdict formats root fuel schema value = some true) :
    Meets formats root siblings value ("anyOf", .array alternatives) := by
  obtain ⟨n, hn⟩ := exists_tally hdecided
  refine ⟨fuel, ?_⟩
  rw [keyword, hn, Option.map_some, Option.some.injEq, bne_iff_ne]
  exact (tally_pos hn hschema hgood).ne'

theorem accepts_nullable {name : String} (h : Accepts formats root (definition name) value) :
    Accepts formats root (nullable name) value := by
  obtain ⟨fuel, hfuel⟩ := h
  rcases fuel with _ | fuel
  · cases hfuel
  refine accepts_object_iff.mpr (List.forall_mem_singleton.mpr
    (meets_anyOf (fuel + 1) ?_ List.mem_cons_self hfuel))
  simp [hfuel, verdict_typed]

/-- Null, which the definition does not accept. -/
theorem accepts_nullable_null {name : String} (h : Rejects formats root (definition name) .null) :
    Accepts formats root (nullable name) .null := by
  obtain ⟨fuel, hfuel⟩ := h
  rcases fuel with _ | fuel
  · cases hfuel
  refine accepts_object_iff.mpr (List.forall_mem_singleton.mpr
    (meets_anyOf (fuel + 1) ?_ (List.mem_cons_of_mem _ List.mem_cons_self)
      (verdict_typed "null" fuel)))
  simp [hfuel, verdict_typed]

/-- One of some texts, as alternatives. -/
def constants (names : List String) : String × Json :=
  ("oneOf", .array (names.map fun name => .object [("const", .string name)]))

theorem same_string_iff {name : String} :
    same (.string name) value = true ↔ value = .string name := by
  rcases value with _ | _ | _ | _ | name' | _ | _
  case string => rw [same, beq_iff_eq, Json.string.injEq, eq_comm]
  all_goals simp [same]

/-- **Texts as alternatives** accept exactly these texts. -/
theorem accepts_constants_iff {names : List String} {before : List (String × Json)}
    (hbefore : ∀ k ∈ before, k.1 ∉ assertions) (hnodup : names.Nodup) :
    Accepts formats root (.object (before ++ [constants names])) value ↔
      ∃ name ∈ names, value = .string name := by
  have hconst : ∀ (fuel : ℕ) (name : String),
      verdict formats root (fuel + 1) (.object [("const", .string name)]) value
        = some (same (.string name) value) := by
    intro fuel name
    rw [verdict, every, tally, keyword, tally]
    cases same (.string name) value <;> rfl
  have hcount : ∀ fuel, keyword formats root (verdict formats root (fuel + 1))
      (before ++ [constants names]) value (constants names)
        = some (names.countP (fun name => same (.string name) value) == 1) := by
    intro fuel
    rw [constants, keyword, tally_map, tally_congr (fun name _ => hconst fuel name), tally_some,
      Option.map_some]
  rw [accepts_object_iff]
  constructor
  · intro h
    obtain ⟨fuel, hfuel⟩ := h _ (List.mem_append_right _ List.mem_cons_self)
    have hone := (hcount fuel).symm.trans (keyword_fuel (Nat.le_succ fuel) hfuel)
    rw [Option.some.injEq, beq_iff_eq] at hone
    obtain ⟨name, hname, hsame⟩ := List.countP_pos_iff.mp (hone ▸ Nat.one_pos)
    exact ⟨name, hname, same_string_iff.mp hsame⟩
  · rintro ⟨name, hname, rfl⟩ k hk
    rcases List.mem_append.mp hk with hk | hk
    · exact meets_annotation (hbefore k hk)
    obtain rfl := List.mem_singleton.mp hk
    refine ⟨1, (hcount 0).trans (congrArg some ?_)⟩
    rw [beq_iff_eq, ← List.count_eq_one_of_mem hnodup hname, List.count]
    refine List.countP_congr ?_
    intro other _
    rw [same]

end Rules

end JsonSchema
