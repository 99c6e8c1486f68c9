import OutboundWebhook.Contract

/-!
# The schemas the contract is generated from

The authored types of a contract crate are turned into schemas, and the build compares these with
the published ones after `normalize_schema` has rewritten them: an empty `properties` beside an
`additionalProperties` that allows everything is left out, and so is the `type` beside an
enumeration of strings. The comparison is worth something only if the rewriting keeps what a schema
means.

## What is rewritten

`normalize_schema` does not know which part of a document is a schema. It also rewrites the values
an enumeration lists, and it takes the map of the properties for a schema: a record that has a
property called `properties` with an empty schema and one called `additionalProperties` that is
`true` loses the first. `Regular` rules both out, and nothing else.

## Main results

* `verdict_normalizeSchema` — a regular document keeps its verdicts
* `normal_normalizeSchema`, `normalizeSchema_of_normal` — the result has no redundant keyword, and
  such a document is left alone
* `regular_published`, `normal_published` — what is published is regular, and has none
-/

namespace OutboundWebhook

open JsonSchema

/-! ### The rewriting -/

/-- `is_string`. -/
def isString : Json → Bool
  | .string _ => true
  | _ => false

/-- Everything is allowed beside an empty `properties`. -/
def openRecord (object : List (String × Json)) : Bool :=
  match object.lookup "additionalProperties", object.lookup "properties" with
  | some (.bool true), some (.object []) => true
  | _, _ => false

/-- An enumeration of strings says that it is of strings. -/
def typedEnumeration (object : List (String × Json)) : Bool :=
  match object.lookup "enum", object.lookup "type" with
  | some (.array values), some (.string "string") => values.all isString
  | _, _ => false

/-- `Map::remove`. The source fills the gap with the last member; here the others close up. The
order of the members is not modelled: nothing that is said of a document depends on it. -/
def remove (name : String) (object : List (String × Json)) : List (String × Json) :=
  object.filter fun member => member.1 != name

def dropProperties (object : List (String × Json)) : List (String × Json) :=
  if openRecord object then remove "properties" object else object

def dropType (object : List (String × Json)) : List (String × Json) :=
  if typedEnumeration object then remove "type" object else object

/-- The two removals, one after the other. -/
def collapse (object : List (String × Json)) : List (String × Json) :=
  dropType (dropProperties object)

mutual

def normalizeSchema : Json → Json
  | .object members => .object (collapse (normalizeMembers members))
  | .array values => .array (normalizeItems values)
  | value => value

def normalizeItems : List Json → List Json
  | [] => []
  | value :: rest => normalizeSchema value :: normalizeItems rest

def normalizeMembers : List (String × Json) → List (String × Json)
  | [] => []
  | (name, value) :: rest => (name, normalizeSchema value) :: normalizeMembers rest

end

theorem normalizeItems_eq_map (values : List Json) :
    normalizeItems values = values.map normalizeSchema := by
  induction values with
  | nil => rfl
  | cons value rest ih => rw [normalizeItems, ih, List.map_cons]

theorem normalizeMembers_eq_map (members : List (String × Json)) :
    normalizeMembers members = members.map fun member => (member.1, normalizeSchema member.2) := by
  induction members with
  | nil => rfl
  | cons member rest ih => rw [normalizeMembers, ih, List.map_cons]

/-! ### Looking up a keyword -/

section Lookup

variable {object : List (String × Json)} {name other : String}

theorem lookup_remove_self : (remove name object).lookup name = none := by
  rw [List.lookup_eq_none_iff]
  intro member hmember
  have hne := (List.mem_filter.mp hmember).2
  rw [bne_iff_ne] at hne ⊢
  exact hne.symm

theorem lookup_remove_of_ne (h : name ≠ other) :
    (remove other object).lookup name = object.lookup name := by
  induction object with
  | nil => rfl
  | cons member rest ih =>
    obtain ⟨key, value⟩ := member
    rw [remove] at ih ⊢
    by_cases hkey : key = other
    · rw [List.filter_cons_of_neg (by simp [hkey]), ih, List.lookup_cons,
        beq_eq_false_iff_ne.mpr (hkey ▸ h)]
    · rw [List.filter_cons_of_pos (by simp [hkey]), List.lookup_cons, List.lookup_cons, ih]

theorem mem_of_lookup_eq {value : Json} (h : object.lookup name = some value) :
    (name, value) ∈ object := by
  obtain ⟨before, after, rfl, -⟩ := List.lookup_eq_some_iff.mp h
  exact List.mem_append_cons_self

/-- A name stands for one value. -/
theorem eq_of_lookup {value : Json} (hnames : (object.map Prod.fst).Nodup)
    (h : object.lookup name = some value) {member : String × Json} (hmember : member ∈ object)
    (hname : member.1 = name) : member = (name, value) :=
  List.inj_on_of_nodup_map hnames hmember (mem_of_lookup_eq h) hname

theorem lookup_normalizeMembers :
    (normalizeMembers object).lookup name = (object.lookup name).map normalizeSchema := by
  induction object with
  | nil => rfl
  | cons member rest ih =>
    obtain ⟨key, value⟩ := member
    rw [normalizeMembers, List.lookup_cons, List.lookup_cons, ih]
    cases name == key <;> rfl

end Lookup

/-! ### Normal documents -/

/-- A keyword of the object can be left out. -/
def redundant (object : List (String × Json)) : Bool :=
  openRecord object || typedEnumeration object

section Collapse

variable {object : List (String × Json)} {member : String × Json}

theorem openRecord_iff :
    openRecord object = true ↔ object.lookup "additionalProperties" = some (.bool true) ∧
      object.lookup "properties" = some (.object []) := by
  unfold openRecord
  split
  · simp_all
  · rename_i hnot
    simp only [Bool.false_eq_true, false_iff]
    rintro ⟨hadditional, hproperties⟩
    exact hnot hadditional hproperties

theorem typedEnumeration_iff :
    typedEnumeration object = true ↔ ∃ values, object.lookup "enum" = some (.array values) ∧
      object.lookup "type" = some (.string "string") ∧ values.all isString = true := by
  unfold typedEnumeration
  split
  · simp_all
  · rename_i hnot
    simp only [Bool.false_eq_true, false_iff]
    rintro ⟨values, henum, htype, -⟩
    exact hnot values henum htype

theorem lookup_collapse {name : String} (hproperties : name ≠ "properties")
    (htype : name ≠ "type") : (collapse object).lookup name = object.lookup name := by
  have hdrop : (dropProperties object).lookup name = object.lookup name := by
    rw [dropProperties]
    split
    · exact lookup_remove_of_ne hproperties
    · rfl
  rw [collapse, dropType]
  split
  · rw [lookup_remove_of_ne htype, hdrop]
  · exact hdrop

theorem collapse_of_not_redundant (h : redundant object = false) : collapse object = object := by
  obtain ⟨hopen, htyped⟩ := Bool.or_eq_false_iff.mp h
  rw [collapse, dropProperties, hopen, if_neg Bool.false_ne_true, dropType, htyped,
    if_neg Bool.false_ne_true]

theorem openRecord_dropProperties : openRecord (dropProperties object) = false := by
  rw [dropProperties]
  split
  · rw [openRecord, lookup_remove_self]
    split
    · cases ‹_ = some _›
    · rfl
  · exact Bool.eq_false_iff.mpr ‹_›

theorem typedEnumeration_dropType : typedEnumeration (dropType object) = false := by
  rw [dropType]
  split
  · rw [typedEnumeration, lookup_remove_self]
    split
    · cases ‹_ = some _›
    · rfl
  · exact Bool.eq_false_iff.mpr ‹_›

theorem openRecord_dropType : openRecord (dropType object) = openRecord object := by
  rw [dropType]
  split
  · rw [openRecord, openRecord, lookup_remove_of_ne (by decide), lookup_remove_of_ne (by decide)]
  · rfl

theorem redundant_collapse : redundant (collapse object) = false := by
  rw [redundant, collapse, openRecord_dropType, openRecord_dropProperties,
    typedEnumeration_dropType, Bool.or_false]

theorem mem_of_mem_collapse (h : member ∈ collapse object) : member ∈ object := by
  have hproperties : ∀ {object}, member ∈ dropProperties object → member ∈ object := by
    intro object h
    rw [dropProperties] at h
    split at h
    · exact List.mem_of_mem_filter h
    · exact h
  rw [collapse, dropType] at h
  split at h
  · exact hproperties (List.mem_of_mem_filter h)
  · exact hproperties h

end Collapse

/-- No keyword can be left out, at any depth. -/
def Normal (document : Json) : Prop :=
  document.Everywhere fun part => ∀ object, part = .object object → redundant object = false

/-- **The result is normal.** -/
theorem normal_normalizeSchema (document : Json) : Normal (normalizeSchema document) := by
  induction document using Json.induct with
  | array values ih =>
    rw [normalizeSchema, normalizeItems_eq_map]
    refine Json.Everywhere.array (fun object h => by cases h) ?_
    intro item hitem
    obtain ⟨value, hvalue, rfl⟩ := List.mem_map.mp hitem
    exact ih value hvalue
  | object members ih =>
    rw [normalizeSchema]
    refine Json.Everywhere.object ?_ ?_
    · rintro object ⟨⟩
      exact redundant_collapse
    · intro entry hentry
      have hentry := mem_of_mem_collapse hentry
      rw [normalizeMembers_eq_map] at hentry
      obtain ⟨member, hmember, rfl⟩ := List.mem_map.mp hentry
      exact ih member hmember
  | null | bool | number | decimal | string =>
    intro part hpart object hobject
    cases hpart
    cases hobject

/-- **A normal document is left alone.** -/
theorem normalizeSchema_of_normal {document : Json} (h : Normal document) :
    normalizeSchema document = document := by
  induction document using Json.induct with
  | array values ih =>
    rw [normalizeSchema, normalizeItems_eq_map]
    congr 1
    refine (List.map_congr_left ?_).trans (List.map_id values)
    exact fun value hvalue => ih value hvalue (h.item hvalue)
  | object members ih =>
    have hmembers : normalizeMembers members = members := by
      rw [normalizeMembers_eq_map]
      refine (List.map_congr_left ?_).trans (List.map_id members)
      intro member hmember
      rw [ih member hmember (h.member hmember)]
      rfl
    rw [normalizeSchema, hmembers, collapse_of_not_redundant (h.here members rfl)]
  | null | bool | number | decimal | string => rfl

/-! ### Regular documents -/

/-- A schema in which only schemas are rewritten. -/
inductive Regular : Json → Prop
  | bool (b : Bool) : Regular (.bool b)
  | object {keywords : List (String × Json)} (names : (keywords.map Prod.fst).Nodup)
      (values : ∀ name ∈ ["enum", "const"], ∀ value, (name, value) ∈ keywords → Normal value)
      (others : ∀ schema, ("additionalProperties", schema) ∈ keywords → Regular schema)
      (alternatives : ∀ name ∈ ["oneOf", "anyOf"], ∀ schemas, (name, .array schemas) ∈ keywords →
        ∀ schema ∈ schemas, Regular schema)
      (maps : ∀ name ∈ ["properties", "$defs"], ∀ entries, (name, .object entries) ∈ keywords →
        redundant entries = false)
      (schemas : ∀ name ∈ ["properties", "$defs"], ∀ entries,
        (name, .object entries) ∈ keywords → ∀ entry ∈ entries, Regular entry.2) :
      Regular (.object keywords)

/-- A keyword in whose argument only schemas are rewritten. -/
inductive RegularKeyword : String × Json → Prop
  | plain {name : String} {argument : Json}
      (hname : name ∉ ["enum", "const", "additionalProperties", "oneOf", "anyOf", "properties",
        "$defs"]) : RegularKeyword (name, argument)
  | values {name : String} {argument : Json} (hname : name ∈ ["enum", "const"])
      (hnormal : Normal argument) : RegularKeyword (name, argument)
  | others {schema : Json} (h : Regular schema) : RegularKeyword ("additionalProperties", schema)
  | alternatives {name : String} {schemas : List Json} (hname : name ∈ ["oneOf", "anyOf"])
      (h : ∀ schema ∈ schemas, Regular schema) : RegularKeyword (name, .array schemas)
  | map {name : String} {entries : List (String × Json)} (hname : name ∈ ["properties", "$defs"])
      (hkept : redundant entries = false) (h : ∀ entry ∈ entries, Regular entry.2) :
      RegularKeyword (name, .object entries)

theorem Regular.of_keywords {keywords : List (String × Json)}
    (hnames : (keywords.map Prod.fst).Nodup) (h : ∀ k ∈ keywords, RegularKeyword k) :
    Regular (.object keywords) := by
  refine .object hnames ?_ ?_ ?_ ?_ ?_
  · intro name hname value hk
    have hkeyword := h _ hk
    cases hkeyword with
    | values _ hnormal => exact hnormal
    | _ => grind
  · intro schema hk
    have hkeyword := h _ hk
    cases hkeyword with
    | others h => exact h
    | _ => grind
  · intro name hname schemas hk
    have hkeyword := h _ hk
    cases hkeyword with
    | alternatives _ h => exact h
    | _ => grind
  · intro name hname entries hk
    have hkeyword := h _ hk
    cases hkeyword with
    | map _ hkept _ => exact hkept
    | _ => grind
  · intro name hname entries hk
    have hkeyword := h _ hk
    cases hkeyword with
    | map _ _ h => exact h
    | _ => grind

section Kinds

variable {value : Json}

theorem normalizeSchema_eq_string_iff {text : String} :
    normalizeSchema value = .string text ↔ value = .string text := by
  cases value <;> simp [normalizeSchema]

theorem normalizeSchema_eq_number_iff {n : ℤ} :
    normalizeSchema value = .number n ↔ value = .number n := by
  cases value <;> simp [normalizeSchema]

theorem normalizeSchema_eq_bool_iff {b : Bool} :
    normalizeSchema value = .bool b ↔ value = .bool b := by
  cases value <;> simp [normalizeSchema]

theorem normalizeSchema_eq_array_iff {items : List Json} :
    normalizeSchema value = .array items ↔
      ∃ values, value = .array values ∧ normalizeItems values = items := by
  cases value <;> simp [normalizeSchema]

theorem normalizeSchema_eq_object_iff {members : List (String × Json)} :
    normalizeSchema value = .object members ↔
      ∃ object, value = .object object ∧ collapse (normalizeMembers object) = members := by
  cases value <;> simp [normalizeSchema]

theorem isString_normalizeSchema : isString (normalizeSchema value) = isString value := by
  cases value <;> rfl

theorem texts_normalizeItems (values : List Json) :
    texts (normalizeItems values) = texts values := by
  have hkind : ∀ value : Json, (match normalizeSchema value with
      | .string text => some text
      | _ => none) = match value with
      | .string text => some text
      | _ => none := by
    intro value
    cases value <;> rfl
  rw [normalizeItems_eq_map, texts, texts, List.mapM_map]
  congr 1
  exact funext hkind

end Kinds

/-- No object is emptied: of what makes a keyword redundant, something stays. -/
theorem normalizeSchema_eq_empty_iff {value : Json} :
    normalizeSchema value = .object [] ↔ value = .object [] := by
  constructor
  · intro h
    rcases value with _ | _ | _ | _ | _ | _ | members
    case object =>
      rw [normalizeSchema, Json.object.injEq] at h
      by_cases hredundant : redundant (normalizeMembers members)
      · rcases Bool.or_eq_true_iff.mp hredundant with hopen | htyped
        · obtain ⟨hadditional, -⟩ := openRecord_iff.mp hopen
          have hkept := @lookup_collapse (normalizeMembers members) "additionalProperties"
            (by decide) (by decide)
          rw [h, hadditional] at hkept
          cases hkept
        · obtain ⟨values, henum, -⟩ := typedEnumeration_iff.mp htyped
          have hkept := @lookup_collapse (normalizeMembers members) "enum" (by decide)
            (by decide)
          rw [h, henum] at hkept
          cases hkept
      · rw [collapse_of_not_redundant (Bool.eq_false_iff.mpr hredundant),
          normalizeMembers_eq_map, List.map_eq_nil_iff] at h
        rw [h]
    all_goals simp [normalizeSchema] at h
  · rintro rfl
    rfl

/-- Rewriting the members of an object makes none of its keywords redundant, and none needed. -/
theorem redundant_normalizeMembers (object : List (String × Json)) :
    redundant (normalizeMembers object) = redundant object := by
  have hopen : openRecord (normalizeMembers object) = openRecord object := by
    rw [Bool.eq_iff_iff, openRecord_iff, openRecord_iff, lookup_normalizeMembers,
      lookup_normalizeMembers]
    simp [Option.map_eq_some_iff, normalizeSchema_eq_bool_iff, normalizeSchema_eq_empty_iff]
  have htyped : typedEnumeration (normalizeMembers object) = typedEnumeration object := by
    rw [Bool.eq_iff_iff, typedEnumeration_iff, typedEnumeration_iff, lookup_normalizeMembers,
      lookup_normalizeMembers]
    simp only [Option.map_eq_some_iff, normalizeSchema_eq_string_iff]
    constructor
    · rintro ⟨values, ⟨value, henum, hvalue⟩, ⟨text, htype, rfl⟩, hstrings⟩
      rcases value with _ | _ | _ | _ | _ | items | _
      case array =>
        rw [normalizeSchema, Json.array.injEq] at hvalue
        refine ⟨items, henum, htype, ?_⟩
        rw [← hvalue, normalizeItems_eq_map, List.all_map] at hstrings
        simpa [isString_normalizeSchema, Function.comp_def] using hstrings
      all_goals simp [normalizeSchema] at hvalue
    · rintro ⟨items, henum, htype, hstrings⟩
      refine ⟨_, ⟨_, henum, rfl⟩, ⟨_, htype, rfl⟩, ?_⟩
      rw [normalizeItems_eq_map, List.all_map]
      simpa [isString_normalizeSchema, Function.comp_def] using hstrings
  rw [redundant, redundant, hopen, htyped]

/-! ### What a schema means -/

section Verdicts

variable {formats : String → String → Bool} {root : Json} {judge : Json → Json → Option Bool}
  {siblings object : List (String × Json)} {value : Json}

/-- Everything meets an empty `properties`. -/
theorem every_dropProperties (hnames : (object.map Prod.fst).Nodup) :
    every (keyword formats root judge siblings value) (dropProperties object)
      = every (keyword formats root judge siblings value) object := by
  rw [dropProperties]
  split
  · rename_i hopen
    have hmeets : ∀ k ∈ object, (k.1 != "properties") = false →
        keyword formats root judge siblings value k = some true := by
      intro k hk hname
      obtain rfl := eq_of_lookup hnames (openRecord_iff.mp hopen).2 hk (by simpa using hname)
      cases value <;> rfl
    refine every_filter ?_ fun _ => hmeets
    intro k hk hname
    rw [hmeets k hk hname]
    rfl
  · rfl

/-- A value that is one of some strings is a string. -/
theorem every_dropType (hnames : (object.map Prod.fst).Nodup) :
    every (keyword formats root judge siblings value) (dropType object)
      = every (keyword formats root judge siblings value) object := by
  rw [dropType]
  split
  · rename_i htyped
    obtain ⟨values, henum, htype, hstrings⟩ := typedEnumeration_iff.mp htyped
    have htypes : ∀ k ∈ object, (k.1 != "type") = false →
        keyword formats root judge siblings value k
          = some ((typeNames value).contains "string") := by
      intro k hk hname
      obtain rfl := eq_of_lookup hnames htype hk (by simpa using hname)
      rfl
    refine every_filter ?_ ?_
    · intro k hk hname
      rw [htypes k hk hname]
      rfl
    · intro hkept k hk hname
      have hlisted := hkept _ (mem_of_lookup_eq henum) (show ("enum" != "type") = true by decide)
      rw [keyword, Option.some.injEq, List.any_eq_true] at hlisted
      obtain ⟨expected, hexpected, hsame⟩ := hlisted
      rw [htypes k hk hname]
      rcases expected with _ | _ | _ | _ | text | _ | _
      case string =>
        rw [same_string_iff.mp hsame]
        rfl
      all_goals cases List.all_eq_true.mp hstrings _ hexpected
  · rfl

/-- A map is rewritten entry by entry. -/
theorem collapse_normalizeMembers {entries : List (String × Json)}
    (h : redundant entries = false) : collapse (normalizeMembers entries)
      = entries.map fun entry => (entry.1, normalizeSchema entry.2) := by
  rw [collapse_of_not_redundant ((redundant_normalizeMembers entries).trans h),
    normalizeMembers_eq_map]

theorem lookup_properties_collapse :
    (collapse object).lookup "properties"
      = if openRecord object then none else object.lookup "properties" := by
  have hdrop : (dropProperties object).lookup "properties"
      = if openRecord object then none else object.lookup "properties" := by
    rw [dropProperties]
    split
    · exact lookup_remove_self
    · rfl
  rw [collapse, dropType]
  split
  · rw [lookup_remove_of_ne (by decide), hdrop]
  · exact hdrop

/-- The names of the properties are kept. -/
theorem declared_collapse {keywords : List (String × Json)}
    (hmaps : ∀ entries, ("properties", .object entries) ∈ keywords → redundant entries = false) :
    declared (collapse (normalizeMembers keywords)) = declared keywords := by
  rw [declared, declared, lookup_properties_collapse]
  by_cases hopen : openRecord (normalizeMembers keywords)
  · have hproperties := (openRecord_iff.mp hopen).2
    rw [lookup_normalizeMembers, Option.map_eq_some_iff] at hproperties
    obtain ⟨properties, hproperties, hempty⟩ := hproperties
    rw [if_pos hopen, hproperties, normalizeSchema_eq_empty_iff.mp hempty]
    rfl
  · rw [if_neg hopen, lookup_normalizeMembers]
    rcases hproperties : keywords.lookup "properties" with - | properties
    · rfl
    rcases properties with _ | _ | _ | _ | _ | _ | entries
    case object =>
      rw [Option.map_some, normalizeSchema,
        collapse_normalizeMembers (hmaps entries (mem_of_lookup_eq hproperties))]
      simp [Function.comp_def]
    all_goals rfl

theorem resolve_normalizeSchema (hroot : Regular root) (reference : String) :
    resolve (normalizeSchema root) reference = (resolve root reference).map normalizeSchema := by
  rcases hroot with _ | ⟨-, -, -, -, hmaps, -⟩
  · rfl
  rename_i keywords
  rw [normalizeSchema, resolve, resolve, lookup_collapse (by decide) (by decide),
    lookup_normalizeMembers]
  rcases hdefinitions : keywords.lookup "$defs" with - | definitions
  · rfl
  rcases definitions with _ | _ | _ | _ | _ | _ | definitions
  case object =>
    have hkept := hmaps "$defs" (by simp) definitions (mem_of_lookup_eq hdefinitions)
    rw [Option.map_some, normalizeSchema, collapse_normalizeMembers hkept]
    simp only [List.find?_map, Option.map_map]
    rfl
  all_goals rfl

theorem regular_of_resolve (hroot : Regular root) {reference : String} {schema : Json}
    (h : resolve root reference = some schema) : Regular schema := by
  rcases hroot with _ | ⟨-, -, -, -, -, hschemas⟩
  · cases h
  rename_i keywords
  rw [resolve] at h
  split at h
  · rename_i definitions hdefinitions
    obtain ⟨entry, hentry, rfl⟩ := Option.map_eq_some_iff.mp h
    exact hschemas "$defs" (by simp) definitions (mem_of_lookup_eq hdefinitions) entry
      (List.mem_of_find?_eq_some hentry)
  · cases h

/-- A judge of rewritten schemas that agrees with a judge of the schemas. -/
def Agree (judge judge' : Json → Json → Option Bool) : Prop :=
  ∀ schema value, Regular schema → judge' (normalizeSchema schema) value = judge schema value

/-- **One keyword** is judged as it was. -/
theorem keyword_normalize (hroot : Regular root) {judge' : Json → Json → Option Bool}
    (hagree : Agree judge judge') {keywords : List (String × Json)}
    (hregular : Regular (.object keywords)) {k : String × Json} (hk : k ∈ keywords) :
    keyword formats (normalizeSchema root) judge' (collapse (normalizeMembers keywords)) value
        (k.1, normalizeSchema k.2)
      = keyword formats root judge keywords value k := by
  rcases hregular with _ | ⟨hnames, hvalues, hothers, halternatives, hmaps, hschemas⟩
  have hlist : ∀ {name : String}, name ∈ ["oneOf", "anyOf"] → ∀ {schemas : List Json},
      (name, .array schemas) ∈ keywords →
      tally (fun schema => judge' schema value) (normalizeItems schemas)
        = tally (fun schema => judge schema value) schemas := by
    intro name hname schemas hmem
    rw [normalizeItems_eq_map, tally_map]
    exact tally_congr fun schema hschema =>
      hagree schema value (halternatives name hname schemas hmem schema hschema)
  conv_rhs => unfold keyword
  split
  case h_1 reference =>
    show (resolve (normalizeSchema root) reference).bind _ = _
    rw [resolve_normalizeSchema hroot]
    rcases hschema : resolve root reference with - | schema
    · rfl
    · exact hagree schema value (regular_of_resolve hroot hschema)
  case h_3 names =>
    show (texts (normalizeItems names)).map _ = _
    rw [texts_normalizeItems]
  case h_4 values =>
    rw [normalizeSchema_of_normal (hvalues "enum" (by simp) _ hk)]
    rfl
  case h_5 expected =>
    rw [normalizeSchema_of_normal (hvalues "const" (by simp) _ hk), keyword]
  case h_6 schemas =>
    show (tally _ (normalizeItems schemas)).map _ = _
    rw [hlist (by simp) hk]
  case h_7 schemas =>
    show (tally _ (normalizeItems schemas)).map _ = _
    rw [hlist (by simp) hk]
  case h_8 names =>
    show (texts (normalizeItems names)).map _ = _
    rw [texts_normalizeItems]
  case h_9 properties =>
    have hmap := collapse_normalizeMembers (hmaps "properties" (by simp) properties hk)
    show keyword _ _ _ _ _ ("properties", .object (collapse (normalizeMembers properties))) = _
    rw [hmap]
    rcases value with _ | _ | _ | _ | _ | _ | members
    case object =>
      refine (every_map _ _ properties).trans (every_congr fun property hproperty => ?_)
      dsimp only
      split
      · exact hagree _ _ (hschemas "properties" (by simp) properties hk property hproperty)
      · rfl
    all_goals rfl
  case h_10 schema =>
    have hdeclared := declared_collapse fun entries => hmaps "properties" (by simp) entries
    rcases value with _ | _ | _ | _ | _ | _ | members
    case object =>
      show every _ (members.filter fun member =>
        !(declared (collapse (normalizeMembers keywords))).contains member.1) = _
      rw [hdeclared]
      exact every_congr fun member _ => hagree schema member.2 (hothers schema hk)
    all_goals rfl
  case h_2 | h_11 | h_12 | h_13 => rfl
  case h_14 name argument href htype htypes henum hconst honeOf hanyOf hrequired hproperties
      hadditional hminimum hmaximum hformat =>
    -- an argument of the wrong kind stays one
    show keyword _ _ _ _ _ (name, normalizeSchema argument) = _
    clear hk hlist hschemas hmaps halternatives hothers hvalues hnames hagree hroot
    unfold keyword
    split
    case h_14 heq => rw [(Prod.mk.inj heq).1]
    all_goals
      rename_i heq
      obtain ⟨rfl, hargument⟩ := Prod.mk.inj heq
      simp_all [normalizeSchema_eq_string_iff, normalizeSchema_eq_number_iff,
        normalizeSchema_eq_array_iff, normalizeSchema_eq_object_iff]

/-- A rewritten document keeps the verdicts of its schemas, at the same fuel. -/
theorem verdict_normalizeSchema (hroot : Regular root) {schema : Json} (h : Regular schema)
    (fuel : ℕ) : verdict formats (normalizeSchema root) fuel (normalizeSchema schema) value
      = verdict formats root fuel schema value := by
  induction fuel generalizing schema value with
  | zero => rfl
  | succ fuel ih =>
    rcases h with b | ⟨hnames, hvalues, hothers, halternatives, hmaps, hschemas⟩
    · rfl
    rename_i keywords
    have hagree : Agree (verdict formats root fuel)
        (verdict formats (normalizeSchema root) fuel) := fun schema value h => ih h
    have hnames' : ((normalizeMembers keywords).map Prod.fst).Nodup := by
      rw [normalizeMembers_eq_map, List.map_map]
      exact hnames
    have hdropped : ((dropProperties (normalizeMembers keywords)).map Prod.fst).Nodup := by
      rw [dropProperties]
      split
      · exact hnames'.sublist (List.filter_sublist.map _)
      · exact hnames'
    rw [normalizeSchema, verdict, verdict, collapse, every_dropType hdropped,
      every_dropProperties hnames', ← collapse, normalizeMembers_eq_map, every_map]
    refine every_congr fun k hk => ?_
    rw [← normalizeMembers_eq_map]
    exact keyword_normalize hroot hagree
      (.object hnames hvalues hothers halternatives hmaps hschemas) hk

end Verdicts

/-! ### The published documents -/

theorem normal_strings (names : List String) : Normal (.array (names.map .string)) := by
  refine Json.Everywhere.array (fun object h => by cases h) ?_
  intro item hitem
  obtain ⟨name, -, rfl⟩ := List.mem_map.mp hitem
  exact Json.Everywhere.string fun object h => by cases h

theorem regular_typed (name : String) : Regular (typed name) :=
  .of_keywords (List.nodup_singleton "type") (List.forall_mem_singleton.mpr (.plain (by decide)))

theorem regular_definition (name : String) : Regular (definition name) :=
  .of_keywords (List.nodup_singleton "$ref") (List.forall_mem_singleton.mpr (.plain (by decide)))

theorem regular_ranged (low high : ℤ) : Regular (ranged low high) := by
  refine .of_keywords (show ["type", "minimum", "maximum"].Nodup by decide) ?_
  simp only [List.forall_mem_cons]
  exact ⟨.plain (by decide), .plain (by decide), .plain (by decide), List.forall_mem_nil _⟩

theorem regular_formatted (name : String) : Regular (formatted name) := by
  refine .of_keywords (show ["type", "format"].Nodup by decide) ?_
  simp only [List.forall_mem_cons]
  exact ⟨.plain (by decide), .plain (by decide), List.forall_mem_nil _⟩

theorem regular_enumeration (names : List String) : Regular (enumeration names) :=
  .of_keywords (List.nodup_singleton "enum")
    (List.forall_mem_singleton.mpr (.values (by decide) (normal_strings names)))

theorem regular_nullable (name : String) : Regular (nullable name) := by
  refine .of_keywords (List.nodup_singleton "anyOf") (List.forall_mem_singleton.mpr ?_)
  refine .alternatives (by decide) ?_
  simp only [List.forall_mem_cons]
  exact ⟨regular_definition name, regular_typed "null", List.forall_mem_nil _⟩

theorem regularKeyword_constants (names : List String) : RegularKeyword (constants names) := by
  refine .alternatives (by decide) ?_
  intro schema hschema
  obtain ⟨name, -, rfl⟩ := List.mem_map.mp hschema
  refine .of_keywords (List.nodup_singleton "const") (List.forall_mem_singleton.mpr ?_)
  exact .values (by decide) (Json.Everywhere.string fun object h => by cases h)

theorem regular_record {before after properties : List (String × Json)} {required : List String}
    (hnames : ((before ++ record required properties ++ after).map Prod.fst).Nodup)
    (hbefore : ∀ k ∈ before, RegularKeyword k) (hafter : ∀ k ∈ after, RegularKeyword k)
    (hkept : redundant properties = false) (h : ∀ property ∈ properties, Regular property.2) :
    Regular (.object (before ++ record required properties ++ after)) := by
  refine .of_keywords hnames ?_
  simp only [List.forall_mem_append, record, List.forall_mem_cons]
  refine ⟨⟨hbefore, ?_⟩, hafter⟩
  exact ⟨.plain (by decide), .plain (by decide), .map (by decide) hkept h, .others (.bool false),
    List.forall_mem_nil _⟩

theorem regular_receiptSchema : Regular receiptSchema := by
  refine regular_record (by decide) (List.forall_mem_nil _) (List.forall_mem_nil _)
    rfl ?_
  simp only [List.forall_mem_cons]
  exact ⟨regular_ranged 1 100, regular_typed _, regular_definition _, regular_definition _,
    regular_formatted _, List.forall_mem_nil _⟩

theorem regular_errors (names : List String) :
    Regular (.object ([draft] ++ [constants names])) := by
  refine .of_keywords (show ["$schema", "oneOf"].Nodup by decide) ?_
  simp only [List.singleton_append, List.forall_mem_cons]
  exact ⟨.plain (by decide), regularKeyword_constants names, List.forall_mem_nil _⟩

theorem regular_nullableString : Regular nullableString.2 :=
  .of_keywords (List.nodup_singleton "type") (List.forall_mem_singleton.mpr (.plain (by decide)))

theorem regular_enqueueResponseSchema : Regular enqueueResponseSchema := by
  refine regular_record (by decide) ?_ ?_ rfl ?_
  · exact List.forall_mem_singleton.mpr (.plain (by decide))
  · simp only [List.forall_mem_cons]
    refine ⟨.map (by decide) rfl ?_, .plain (by decide), List.forall_mem_nil _⟩
    exact List.forall_mem_singleton.mpr (regular_enumeration _)
  · simp only [List.forall_mem_cons]
    exact ⟨regular_typed _, regular_typed _, regular_definition _, List.forall_mem_nil _⟩

theorem regular_dispatchResponseSchema : Regular dispatchResponseSchema := by
  refine regular_record (by decide) ?_ ?_ rfl ?_
  · exact List.forall_mem_singleton.mpr (.plain (by decide))
  · simp only [List.forall_mem_cons]
    refine ⟨.map (by decide) rfl ?_, .plain (by decide), List.forall_mem_nil _⟩
    simp only [List.forall_mem_cons]
    exact ⟨regular_enumeration _, regular_receiptSchema, regular_nullable _,
      regular_nullableString, List.forall_mem_nil _⟩
  · simp only [List.forall_mem_cons]
    exact ⟨regular_definition _, regular_definition _, regular_definition _,
      List.forall_mem_nil _⟩

theorem regular_inspectResponseSchema : Regular inspectResponseSchema := by
  refine regular_record (by decide) ?_ ?_ rfl ?_
  · exact List.forall_mem_singleton.mpr (.plain (by decide))
  · simp only [List.forall_mem_cons]
    refine ⟨.map (by decide) rfl ?_, .plain (by decide), List.forall_mem_nil _⟩
    simp only [List.forall_mem_cons]
    exact ⟨regular_receiptSchema, regular_enumeration _, regular_nullable _,
      regular_nullableString, List.forall_mem_nil _⟩
  · simp only [List.forall_mem_cons]
    exact ⟨regular_typed _, regular_typed _, regular_typed _, regular_typed _, regular_typed _,
      regular_definition _, regular_ranged 0 100, regular_ranged 1 100, regular_ranged 0 1000000,
      regular_definition _, List.forall_mem_nil _⟩

theorem regular_replayResponseSchema : Regular replayResponseSchema := by
  refine regular_record (by decide) ?_ ?_ rfl ?_
  · exact List.forall_mem_singleton.mpr (.plain (by decide))
  · exact List.forall_mem_singleton.mpr (.plain (by decide))
  · exact List.forall_mem_singleton.mpr (regular_ranged 1 1000000)

def publishedSchemas : List Json :=
  [enqueueResponseSchema, enqueueErrorSchema, dispatchResponseSchema, dispatchErrorSchema,
   inspectResponseSchema, inspectErrorSchema, replayResponseSchema, replayErrorSchema]

theorem regular_published : ∀ schema ∈ publishedSchemas, Regular schema := by
  simp only [publishedSchemas, List.forall_mem_cons]
  exact ⟨regular_enqueueResponseSchema, regular_errors _, regular_dispatchResponseSchema,
    regular_errors _, regular_inspectResponseSchema, regular_errors _,
    regular_replayResponseSchema, regular_errors _, List.forall_mem_nil _⟩

/-- **There is nothing left out of the published documents**, as the comparison requires. -/
theorem normal_published : ∀ schema ∈ publishedSchemas, Normal schema := by
  have hfixed : ∀ schema ∈ publishedSchemas, normalizeSchema schema = schema := by
    simp only [publishedSchemas, List.forall_mem_cons]
    exact ⟨rfl, rfl, rfl, rfl, rfl, rfl, rfl, rfl, List.forall_mem_nil _⟩
  intro schema hschema
  rw [← hfixed schema hschema]
  exact normal_normalizeSchema schema

/-! ### The build's comparison -/

/-- **What the comparison is worth.** The rewritten document has no redundant keyword, a document
without is left alone, and a regular document accepts and rejects what it did. -/
theorem normalization_sound (formats : String → String → Bool) (document : Json) :
    Normal (normalizeSchema document) ∧
      (normalizeSchema document = document ↔ Normal document) ∧
      (Regular document → ∀ value,
        (Accepts formats (normalizeSchema document) (normalizeSchema document) value ↔
          Accepts formats document document value) ∧
        (Rejects formats (normalizeSchema document) (normalizeSchema document) value ↔
          Rejects formats document document value)) := by
  refine ⟨normal_normalizeSchema document, ⟨?_, normalizeSchema_of_normal⟩, ?_⟩
  · intro hfixed
    rw [← hfixed]
    exact normal_normalizeSchema document
  · intro hregular value
    constructor
    · exact exists_congr fun fuel => by rw [verdict_normalizeSchema hregular hregular]
    · exact exists_congr fun fuel => by rw [verdict_normalizeSchema hregular hregular]

/-- A payload as it is authored, with an empty `properties`. -/
def authoredPayload : Json := .object
  [("type", .string "object"), ("properties", .object []), ("additionalProperties", .bool true)]

/-- A status as it is authored, with the type of its texts. -/
def authoredStatus : Json := .object
  [("type", .string "string"), ("enum", .array (["queued", "delivered"].map .string))]

def authoredRecord : Json := .object
  [("type", .string "object"),
   ("properties", .object [("payload", authoredPayload), ("status", authoredStatus)]),
   ("additionalProperties", .bool false)]

theorem regular_authoredRecord : Regular authoredRecord := by
  have hpayload : Regular authoredPayload := by
    refine .of_keywords (by decide) ?_
    simp only [List.forall_mem_cons]
    exact ⟨.plain (by decide), .map (by decide) rfl (List.forall_mem_nil _),
      .others (.bool true), List.forall_mem_nil _⟩
  have hstatus : Regular authoredStatus := by
    refine .of_keywords (by decide) ?_
    simp only [List.forall_mem_cons]
    exact ⟨.plain (by decide), .values (by decide) (normal_strings _), List.forall_mem_nil _⟩
  refine .of_keywords (by decide) ?_
  simp only [List.forall_mem_cons]
  refine ⟨.plain (by decide), .map (by decide) rfl ?_, .others (.bool false),
    List.forall_mem_nil _⟩
  simp only [List.forall_mem_cons]
  exact ⟨hpayload, hstatus, List.forall_mem_nil _⟩

/-- The theorem at an authored record: both keywords are left out, and nothing changes. -/
theorem normalization_sound_authored (formats : String → String → Bool) :
    normalizeSchema authoredRecord = .object
      [("type", .string "object"),
       ("properties", .object
        [("payload", .object [("type", .string "object"), ("additionalProperties", .bool true)]),
         ("status", enumeration ["queued", "delivered"])]),
       ("additionalProperties", .bool false)] ∧
    ∀ value, Accepts formats (normalizeSchema authoredRecord) (normalizeSchema authoredRecord)
      value ↔ Accepts formats authoredRecord authoredRecord value := by
  obtain ⟨-, -, hkept⟩ := normalization_sound formats authoredRecord
  exact ⟨rfl, fun value => (hkept regular_authoredRecord value).1⟩

/-- **An irregular record may lose a property**, and refuses a value that it accepted. -/
theorem normalization_drops_property (formats : String → String → Bool) :
    ∃ document value, Accepts formats document document value ∧
      ¬Accepts formats (normalizeSchema document) (normalizeSchema document) value := by
  refine ⟨.object
    [("properties", .object [("properties", .object []), ("additionalProperties", .bool true)]),
      ("additionalProperties", .bool false)], .object [("properties", .null)], ⟨2, rfl⟩, ?_⟩
  intro haccepts
  exact haccepts.not_rejects ⟨2, rfl⟩

end OutboundWebhook
