import OutboundWebhook.Foundations.Bytes

/-!
# JSON documents and their compact text

A value keeps the members of an object in the order they were written, which is what a map that
preserves insertion order holds. `Json.render` writes the compact form: no blanks, `","` and `":"`
as separators, and in strings the short escapes where they exist, four hexadecimal digits for the
other control characters, and every other character as itself.

An integer is a number of its own; any other number is held as the text it is written as.
-/

/-- A JSON value. -/
inductive Json
  | null
  | bool (b : Bool)
  | number (n : ℤ)
  | decimal (text : String)
  | string (s : String)
  | array (items : List Json)
  | object (members : List (String × Json))

namespace Json

/-- A lower-case hexadecimal digit. -/
def hexDigit (n : ℕ) : Char := "0123456789abcdef".toList.getD n '0'

/-- One character inside a string. -/
def escapeChar (c : Char) : List Char :=
  if c = '\x22' then ['\x5c', '\x22']
  else if c = '\x5c' then ['\x5c', '\x5c']
  else if c = '\x08' then ['\x5c', 'b']
  else if c = '\x09' then ['\x5c', 't']
  else if c = '\x0a' then ['\x5c', 'n']
  else if c = '\x0c' then ['\x5c', 'f']
  else if c = '\x0d' then ['\x5c', 'r']
  else if c.toNat < 0x20 then
    ['\x5c', 'u', '0', '0', hexDigit (c.toNat / 16), hexDigit (c.toNat % 16)]
  else [c]

/-- A string with its quotes. -/
def renderString (s : String) : List Char :=
  '\x22' :: s.toList.flatMap escapeChar ++ ['\x22']

theorem length_escapeChar_le (c : Char) : (escapeChar c).length ≤ 6 := by
  unfold escapeChar
  split_ifs <;> simp

theorem length_renderString_le (s : String) :
    (renderString s).length ≤ 6 * s.toList.length + 2 := by
  have hescaped : (s.toList.flatMap escapeChar).length ≤ 6 * s.toList.length := by
    induction s.toList with
    | nil => exact Nat.le_refl 0
    | cons c cs ih =>
      have hc := length_escapeChar_le c
      rw [List.flatMap_cons, List.length_append, List.length_cons]
      omega
  rw [renderString, List.length_append, List.length_cons, List.length_singleton]
  omega

mutual

/-- The compact text of a value. -/
def render : Json → List Char
  | .null => ['n', 'u', 'l', 'l']
  | .bool true => ['t', 'r', 'u', 'e']
  | .bool false => ['f', 'a', 'l', 's', 'e']
  | .number n => (toString n).toList
  | .decimal text => text.toList
  | .string s => renderString s
  | .array items => '\x5b' :: renderItems items ++ ['\x5d']
  | .object members => '\x7b' :: renderMembers members ++ ['\x7d']

/-- The items of an array, separated by commas. -/
def renderItems : List Json → List Char
  | [] => []
  | [item] => item.render
  | item :: next :: rest => item.render ++ ',' :: renderItems (next :: rest)

/-- The members of an object, separated by commas. -/
def renderMembers : List (String × Json) → List Char
  | [] => []
  | [(name, value)] => renderString name ++ ':' :: value.render
  | (name, value) :: next :: rest =>
    renderString name ++ ':' :: value.render ++ ',' :: renderMembers (next :: rest)

end

/-- The octets of the compact text. -/
def toVec (j : Json) : Bytes := asBytes (String.ofList j.render)

example : render (.array [.number (-1), .string "a\n", .null])
    = "[-1,\"a\\n\",null]".toList := by decide +kernel

/-! ### Induction over a value -/

/-- **Induction over a value**, with the hypothesis for each item and each member. -/
@[elab_as_elim]
theorem induct {motive : Json → Prop} (null : motive .null) (bool : ∀ b, motive (.bool b))
    (number : ∀ n, motive (.number n)) (decimal : ∀ text, motive (.decimal text))
    (string : ∀ s, motive (.string s))
    (array : ∀ items, (∀ item ∈ items, motive item) → motive (.array items))
    (object : ∀ members, (∀ member ∈ members, motive member.2) → motive (.object members))
    (j : Json) : motive j :=
  @Json.rec motive (fun items => ∀ item ∈ items, motive item)
    (fun members => ∀ member ∈ members, motive member.2) (fun member => motive member.2)
    null bool number decimal string array object
    (fun _ h => absurd h List.not_mem_nil)
    (fun _ _ h ih => List.forall_mem_cons.mpr ⟨h, ih⟩)
    (fun _ h => absurd h List.not_mem_nil)
    (fun _ _ h ih => List.forall_mem_cons.mpr ⟨h, ih⟩)
    (fun _ _ h => h) j

/-! ### Parts of a value -/

/-- `PartOf k j`: the value `k` stands somewhere in `j`. -/
inductive PartOf (k : Json) : Json → Prop
  | self : PartOf k k
  | item {items : List Json} {item : Json} (hmem : item ∈ items) (h : PartOf k item) :
    PartOf k (.array items)
  | member {members : List (String × Json)} {member : String × Json} (hmem : member ∈ members)
      (h : PartOf k member.2) : PartOf k (.object members)

/-- `p` holds at every depth. -/
def Everywhere (p : Json → Prop) (j : Json) : Prop := ∀ k, PartOf k j → p k

section Everywhere

variable {p : Json → Prop} {items : List Json} {members : List (String × Json)}

theorem Everywhere.here {j : Json} (h : j.Everywhere p) : p j := h j .self

theorem Everywhere.item (h : (array items).Everywhere p)
    {item : Json} (hmem : item ∈ items) : item.Everywhere p :=
  fun k hk => h k (.item hmem hk)

theorem Everywhere.member (h : (object members).Everywhere p)
    {member : String × Json} (hmem : member ∈ members) :
    member.2.Everywhere p :=
  fun k hk => h k (.member hmem hk)

theorem Everywhere.string {s : String} (h : p (.string s)) : (string s).Everywhere p := by
  intro k hk
  cases hk with
  | self => exact h

theorem Everywhere.number {n : ℤ} (h : p (.number n)) : (number n).Everywhere p := by
  intro k hk
  cases hk with
  | self => exact h

theorem Everywhere.array (h : p (.array items)) (hitems : ∀ item ∈ items, item.Everywhere p) :
    (array items).Everywhere p := by
  intro k hk
  cases hk with
  | self => exact h
  | item hmem hk => exact hitems _ hmem k hk

theorem Everywhere.object (h : p (.object members))
    (hmembers : ∀ member ∈ members, member.2.Everywhere p) : (object members).Everywhere p := by
  intro k hk
  cases hk with
  | self => exact h
  | member hmem hk => exact hmembers _ hmem k hk

end Everywhere

end Json
