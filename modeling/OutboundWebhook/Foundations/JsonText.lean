import OutboundWebhook.Foundations.Json

/-!
# The compact text of a JSON value determines it

`Json.render` is injective on values whose numbers are integers (`Json.render_inj`). The text of a
value is not a code of fixed length, so what is proved by induction is more: a value followed by
anything that does not begin with a digit can be read off in one way only
(`Json.render_append_inj`).

## How a reader finds its way

The first character tells which kind of value follows (`Json.exists_render_eq_cons`). A string ends
at the first quote that is not escaped, because an escape never begins with one. A number ends
where its digits end, and that is why a digit may not follow. An array or an object ends at the
bracket that stands where a separator could have stood (`Json.separated_append_inj`).

## Main results

* `Json.render_inj`
-/

namespace Json

/-! ### Strings -/

/-- The value of a lower-case hexadecimal digit. -/
def hexValue (c : Char) : ℕ := "0123456789abcdef".toList.idxOf c

theorem hexValue_hexDigit {n : ℕ} (h : n < 16) : hexValue (hexDigit n) = n := by
  revert n
  decide

/-- The character an escape stands for, after its backslash, and what follows. -/
def unescapeRest : List Char → Option (Char × List Char)
  | 'b' :: rest => some ('\x08', rest)
  | 't' :: rest => some ('\x09', rest)
  | 'n' :: rest => some ('\x0a', rest)
  | 'f' :: rest => some ('\x0c', rest)
  | 'r' :: rest => some ('\x0d', rest)
  | 'u' :: '0' :: '0' :: high :: low :: rest =>
    some (Char.ofNat (16 * hexValue high + hexValue low), rest)
  | c :: rest => some (c, rest)
  | [] => none

/-- The first character of the inside of a string, and what follows. -/
def unescape : List Char → Option (Char × List Char)
  | [] => none
  | c :: rest => if c = '\x5c' then unescapeRest rest else some (c, rest)

/-- **An escape can be undone** whatever follows. -/
theorem unescape_escapeChar (c : Char) (rest : List Char) :
    unescape (escapeChar c ++ rest) = some (c, rest) := by
  rw [escapeChar]
  split_ifs with hquote hslash hb ht hn hf hr hcontrol
  · subst hquote
    rfl
  · subst hslash
    rfl
  · subst hb
    rfl
  · subst ht
    rfl
  · subst hn
    rfl
  · subst hf
    rfl
  · subst hr
    rfl
  · have hhigh := hexValue_hexDigit (n := c.toNat / 16) (by omega)
    have hlow := hexValue_hexDigit (n := c.toNat % 16) (by omega)
    have hvalue : 16 * (c.toNat / 16) + c.toNat % 16 = c.toNat := by omega
    simp only [List.cons_append, List.nil_append, unescape, if_true, unescapeRest, hhigh, hlow,
      hvalue, Char.ofNat_toNat]
  · rw [List.singleton_append, unescape, if_neg hslash]

theorem escapeChar_append_inj {c c' : Char} {r r' : List Char}
    (h : escapeChar c ++ r = escapeChar c' ++ r') : c = c' ∧ r = r' := by
  have hread := congrArg unescape h
  rw [unescape_escapeChar, unescape_escapeChar, Option.some.injEq, Prod.mk.injEq] at hread
  exact hread

/-- No escape begins with a quote. -/
theorem exists_escapeChar_eq_cons (c : Char) : ∃ d ds, escapeChar c = d :: ds ∧ d ≠ '\x22' := by
  rw [escapeChar]
  split_ifs with hquote
  all_goals refine ⟨_, _, rfl, ?_⟩
  all_goals first | exact hquote | decide

/-- The inside of a string ends at the first quote. -/
theorem escaped_append_inj {cs cs' r r' : List Char}
    (h : cs.flatMap escapeChar ++ '\x22' :: r = cs'.flatMap escapeChar ++ '\x22' :: r') :
    cs = cs' ∧ r = r' := by
  induction cs generalizing cs' with
  | nil =>
    cases cs' with
    | nil => exact ⟨rfl, (List.cons.inj h).2⟩
    | cons c' cs' =>
      obtain ⟨d, ds, hd, hne⟩ := exists_escapeChar_eq_cons c'
      rw [List.flatMap_cons, hd] at h
      exact absurd (List.cons.inj h).1.symm hne
  | cons c cs ih =>
    cases cs' with
    | nil =>
      obtain ⟨d, ds, hd, hne⟩ := exists_escapeChar_eq_cons c
      rw [List.flatMap_cons, hd] at h
      exact absurd (List.cons.inj h).1 hne
    | cons c' cs' =>
      rw [List.flatMap_cons, List.flatMap_cons, List.append_assoc, List.append_assoc] at h
      obtain ⟨rfl, hrest⟩ := escapeChar_append_inj h
      obtain ⟨rfl, hr⟩ := ih hrest
      exact ⟨rfl, hr⟩

/-- **A string can be read off** whatever follows. -/
theorem renderString_append_inj {s s' : String} {r r' : List Char}
    (h : renderString s ++ r = renderString s' ++ r') : s = s' ∧ r = r' := by
  rw [renderString, renderString, List.cons_append, List.cons_append, List.cons_append,
    List.cons_append, List.append_assoc, List.append_assoc] at h
  obtain ⟨hchars, hr⟩ := escaped_append_inj (List.cons.inj h).2
  exact ⟨String.toList_injective hchars, hr⟩

/-! ### Numbers -/

/-- The text does not go on with a digit. -/
def EndsNumber (r : List Char) : Prop := ∀ c ∈ r.head?, c.isDigit = false

theorem endsNumber_nil : EndsNumber [] := fun _ h => nomatch h

theorem endsNumber_cons {c : Char} (h : c.isDigit = false) (r : List Char) :
    EndsNumber (c :: r) := by
  intro d hd
  exact Option.some.inj hd ▸ h

/-- Digits end where they end. -/
theorem digits_append_inj {ds ds' r r' : List Char} (hds : ∀ c ∈ ds, c.isDigit)
    (hds' : ∀ c ∈ ds', c.isDigit) (hr : EndsNumber r) (hr' : EndsNumber r')
    (h : ds ++ r = ds' ++ r') : ds = ds' ∧ r = r' := by
  induction ds generalizing ds' with
  | nil =>
    cases ds' with
    | nil => exact ⟨rfl, h⟩
    | cons d ds' =>
      have hd := hds' d List.mem_cons_self
      rw [hr d (by rw [List.nil_append] at h; rw [h]; rfl)] at hd
      cases hd
  | cons d ds ih =>
    cases ds' with
    | nil =>
      have hd := hds d List.mem_cons_self
      rw [hr' d (by rw [List.nil_append] at h; rw [← h]; rfl)] at hd
      cases hd
    | cons d' ds' =>
      rw [List.cons_append, List.cons_append, List.cons.injEq] at h
      obtain ⟨rfl, hrest⟩ := h
      obtain ⟨rfl, heq⟩ := ih (List.forall_mem_cons.mp hds).2 (List.forall_mem_cons.mp hds').2 hrest
      exact ⟨rfl, heq⟩

theorem natDigits_append_inj {n n' : ℕ} {r r' : List Char} (hr : EndsNumber r)
    (hr' : EndsNumber r') (h : n.repr.toList ++ r = n'.repr.toList ++ r') : n = n' ∧ r = r' := by
  have hdigits : ∀ n : ℕ, ∀ c ∈ n.repr.toList, c.isDigit := by
    intro n c hc
    rw [Nat.toList_repr] at hc
    exact Nat.isDigit_of_mem_toDigits (by decide) (by decide) hc
  obtain ⟨heq, hrest⟩ := digits_append_inj (hdigits n) (hdigits n') hr hr' h
  have hvalue := congrArg (Nat.ofDigitChars 10 · 0) heq
  simp only [Nat.toList_repr, Nat.ofDigitChars_ten_toDigits] at hvalue
  exact ⟨hvalue, hrest⟩

/-- The first digit of a natural number is not a sign. -/
theorem exists_natDigits_eq_cons (n : ℕ) : ∃ c rest, n.repr.toList = c :: rest ∧ c.isDigit := by
  rw [Nat.toList_repr]
  cases h : Nat.toDigits 10 n with
  | nil => exact absurd h Nat.toDigits_ne_nil
  | cons c rest =>
    refine ⟨c, rest, rfl, Nat.isDigit_of_mem_toDigits (b := 10) (n := n) (by decide) (by decide) ?_⟩
    rw [h]
    exact List.mem_cons_self

/-- **A number can be read off** if no digit follows. -/
theorem number_append_inj {n n' : ℤ} {r r' : List Char} (hr : EndsNumber r) (hr' : EndsNumber r')
    (h : (toString n).toList ++ r = (toString n').toList ++ r') : n = n' ∧ r = r' := by
  have hnegative : ∀ m : ℕ, (toString (Int.negSucc m)).toList = '-' :: (m + 1).repr.toList :=
    fun m => String.toList_append
  cases n with
  | ofNat n =>
    cases n' with
    | ofNat n' =>
      obtain ⟨rfl, hrest⟩ := natDigits_append_inj hr hr' h
      exact ⟨rfl, hrest⟩
    | negSucc n' =>
      obtain ⟨c, rest, hc, hdigit⟩ := exists_natDigits_eq_cons n
      rw [hnegative, show (toString (Int.ofNat n)).toList = n.repr.toList from rfl, hc] at h
      rw [(List.cons.inj h).1] at hdigit
      exact absurd hdigit (by decide)
  | negSucc n =>
    cases n' with
    | ofNat n' =>
      obtain ⟨c, rest, hc, hdigit⟩ := exists_natDigits_eq_cons n'
      rw [hnegative, show (toString (Int.ofNat n')).toList = n'.repr.toList from rfl, hc] at h
      rw [← (List.cons.inj h).1] at hdigit
      exact absurd hdigit (by decide)
    | negSucc n' =>
      rw [hnegative, hnegative] at h
      obtain ⟨hsucc, hrest⟩ := natDigits_append_inj hr hr' (List.cons.inj h).2
      exact ⟨by rw [Nat.succ.inj hsucc], hrest⟩

/-! ### Items and members -/

section Separated

variable {α : Type} {f : α → List Char}

/-- The texts of the elements, separated by commas. -/
def separated (f : α → List Char) : List α → List Char
  | [] => []
  | [a] => f a
  | a :: b :: rest => f a ++ ',' :: separated f (b :: rest)

/-- **A list ends at its bracket.** Each element can be read off if no digit follows, and none
begins with the bracket. -/
theorem separated_append_inj {close : Char} (hcomma : close ≠ ',') (hdigit : close.isDigit = false)
    {as as' : List α} (hlead : ∀ a ∈ as ++ as', ∃ c rest, f a = c :: rest ∧ c ≠ close)
    (hread : ∀ a ∈ as, ∀ a' ∈ as', ∀ r r', EndsNumber r → EndsNumber r' →
      f a ++ r = f a' ++ r' → a = a' ∧ r = r') {r r' : List Char}
    (h : separated f as ++ close :: r = separated f as' ++ close :: r') : as = as' ∧ r = r' := by
  have hnonempty : ∀ {a : α} {rest : List α} {r r' : List Char},
      (∃ c tail, f a = c :: tail ∧ c ≠ close) →
      close :: r ≠ separated f (a :: rest) ++ close :: r' := by
    intro a rest r r' ⟨c, tail, hc, hne⟩ h
    cases rest <;> rw [separated, hc] at h <;> exact hne (List.cons.inj h).1.symm
  induction as generalizing as' with
  | nil =>
    cases as' with
    | nil => exact ⟨rfl, (List.cons.inj h).2⟩
    | cons a' as' => exact absurd h (hnonempty (hlead a' List.mem_cons_self))
  | cons a as ih =>
    cases as' with
    | nil => exact absurd h.symm (hnonempty (hlead a List.mem_cons_self))
    | cons a' as' =>
      have hhead := hread a List.mem_cons_self a' List.mem_cons_self
      have htail := @ih as'
        (fun b hb => hlead b (by
          rw [List.cons_append, List.mem_cons, List.mem_append, List.mem_cons]
          rcases List.mem_append.mp hb with hb | hb
          · exact .inr (.inl hb)
          · exact .inr (.inr (.inr hb))))
        (fun b hb b' hb' => hread b (List.mem_cons_of_mem _ hb) b' (List.mem_cons_of_mem _ hb'))
      have hclose : EndsNumber (close :: r) := endsNumber_cons hdigit r
      have hclose' : EndsNumber (close :: r') := endsNumber_cons hdigit r'
      have hnext : ∀ t, EndsNumber (',' :: t) := endsNumber_cons (by decide)
      cases as with
      | nil =>
        cases as' with
        | nil =>
          obtain ⟨rfl, hr⟩ := hhead _ _ hclose hclose' h
          exact ⟨rfl, (List.cons.inj hr).2⟩
        | cons b' as' =>
          rw [separated, separated, List.append_assoc] at h
          obtain ⟨-, hr⟩ := hhead _ _ hclose (hnext _) h
          exact absurd (List.cons.inj hr).1 hcomma
      | cons b as =>
        cases as' with
        | nil =>
          rw [separated, separated, List.append_assoc] at h
          obtain ⟨-, hr⟩ := hhead _ _ (hnext _) hclose' h
          exact absurd (List.cons.inj hr).1.symm hcomma
        | cons b' as' =>
          rw [separated, separated, List.append_assoc, List.append_assoc] at h
          obtain ⟨rfl, hr⟩ := hhead _ _ (hnext _) (hnext _) h
          obtain ⟨hrest, hr'⟩ := htail (List.cons.inj hr).2
          exact ⟨by rw [hrest], hr'⟩

end Separated

/-- The text of a member. -/
def renderMember (member : String × Json) : List Char :=
  renderString member.1 ++ ':' :: member.2.render

theorem renderItems_eq_separated (items : List Json) :
    renderItems items = separated render items := by
  induction items with
  | nil => rfl
  | cons item rest ih =>
    cases rest with
    | nil => rfl
    | cons next rest => rw [renderItems, separated, ih]

theorem renderMembers_eq_separated (members : List (String × Json)) :
    renderMembers members = separated renderMember members := by
  induction members with
  | nil => rfl
  | cons member rest ih =>
    obtain ⟨name, value⟩ := member
    cases rest with
    | nil => rfl
    | cons next rest =>
      rw [renderMembers, separated, ih, renderMember, List.append_assoc, List.cons_append]

/-- Every number is an integer. -/
def Integral (j : Json) : Prop := j.Everywhere fun k => ∀ text, k ≠ .decimal text

/-! ### Values -/

inductive Kind
  | null
  | bool
  | number
  | string
  | array
  | object

/-- The kind of a value. -/
def kind : Json → Kind
  | .null => .null
  | .bool _ => .bool
  | .number _ => .number
  | .decimal _ => .number
  | .string _ => .string
  | .array _ => .array
  | .object _ => .object

/-- The kind of a value that begins with this character. -/
def kindOf (c : Char) : Kind :=
  if c = 'n' then .null
  else if c = 't' ∨ c = 'f' then .bool
  else if c = '\x22' then .string
  else if c = '\x5b' then .array
  else if c = '\x7b' then .object
  else .number

theorem kindOf_of_isDigit {c : Char} (h : c.isDigit) : kindOf c = .number := by
  rw [kindOf]
  split_ifs with hn ht hquote harray hobject
  · subst hn
    cases h
  · rcases ht with rfl | rfl <;> cases h
  · subst hquote
    cases h
  · subst harray
    cases h
  · subst hobject
    cases h
  · rfl

/-- **The first character tells the kind**, and is no closing bracket. -/
theorem exists_render_eq_cons {j : Json} (hj : ∀ text, j ≠ .decimal text) :
    ∃ c rest, j.render = c :: rest ∧ kindOf c = j.kind ∧ c ≠ '\x5d' ∧ c ≠ '\x7d' := by
  cases j with
  | null => exact ⟨'n', _, rfl, rfl, by decide, by decide⟩
  | bool b =>
    cases b with
    | false => exact ⟨'f', _, rfl, rfl, by decide, by decide⟩
    | true => exact ⟨'t', _, rfl, rfl, by decide, by decide⟩
  | number n =>
    cases n with
    | ofNat n =>
      obtain ⟨c, rest, hc, hdigit⟩ := exists_natDigits_eq_cons n
      refine ⟨c, rest, hc, kindOf_of_isDigit hdigit, ?_, ?_⟩
      · rintro rfl
        cases hdigit
      · rintro rfl
        cases hdigit
    | negSucc n => exact ⟨'-', _, String.toList_append, rfl, by decide, by decide⟩
  | decimal text => exact absurd rfl (hj text)
  | string s => exact ⟨'\x22', _, rfl, rfl, by decide, by decide⟩
  | array items => exact ⟨'\x5b', _, rfl, rfl, by decide, by decide⟩
  | object members => exact ⟨'\x7b', _, rfl, rfl, by decide, by decide⟩

/-- Values whose texts agree up to what follows are of one kind. -/
theorem kind_eq_of_render_append {j j' : Json} (hj : ∀ text, j ≠ .decimal text)
    (hj' : ∀ text, j' ≠ .decimal text) {r r' : List Char} (h : j.render ++ r = j'.render ++ r') :
    j.kind = j'.kind := by
  obtain ⟨c, rest, hc, hkind, -, -⟩ := exists_render_eq_cons hj
  obtain ⟨c', rest', hc', hkind', -, -⟩ := exists_render_eq_cons hj'
  rw [hc, hc', List.cons_append, List.cons_append, List.cons.injEq] at h
  rw [← hkind, ← hkind', h.1]

theorem renderMember_append_inj {m m' : String × Json}
    (hvalue : ∀ r r', EndsNumber r → EndsNumber r' → m.2.render ++ r = m'.2.render ++ r' →
      m.2 = m'.2 ∧ r = r') {r r' : List Char} (hr : EndsNumber r) (hr' : EndsNumber r')
    (h : renderMember m ++ r = renderMember m' ++ r') : m = m' ∧ r = r' := by
  rw [renderMember, renderMember, List.append_assoc, List.append_assoc, List.cons_append,
    List.cons_append] at h
  obtain ⟨hname, hrest⟩ := renderString_append_inj h
  obtain ⟨hvalue, heq⟩ := hvalue r r' hr hr' (List.cons.inj hrest).2
  exact ⟨Prod.ext hname hvalue, heq⟩

/-- **A value can be read off** if no digit follows. -/
theorem render_append_inj {j : Json} (hj : j.Integral) {j' : Json} (hj' : j'.Integral)
    {r r' : List Char} (hr : EndsNumber r) (hr' : EndsNumber r')
    (h : j.render ++ r = j'.render ++ r') : j = j' ∧ r = r' := by
  have hkind := kind_eq_of_render_append hj.here hj'.here h
  induction j using induct generalizing j' r r' with
  | null =>
    cases j' with
    | null => exact ⟨rfl, List.append_cancel_left h⟩
    | _ => cases hkind
  | bool b =>
    cases j' with
    | bool b' =>
      cases b <;> cases b'
      · exact ⟨rfl, List.append_cancel_left h⟩
      · cases (List.cons.inj h).1
      · cases (List.cons.inj h).1
      · exact ⟨rfl, List.append_cancel_left h⟩
    | _ => cases hkind
  | number n =>
    cases j' with
    | number n' =>
      obtain ⟨rfl, hrest⟩ := number_append_inj hr hr' h
      exact ⟨rfl, hrest⟩
    | decimal text => exact absurd rfl (hj'.here text)
    | _ => cases hkind
  | decimal text => exact absurd rfl (hj.here text)
  | string s =>
    cases j' with
    | string s' =>
      obtain ⟨rfl, hrest⟩ := renderString_append_inj h
      exact ⟨rfl, hrest⟩
    | _ => cases hkind
  | array items ih =>
    cases j' with
    | array items' =>
      have hlead : ∀ item ∈ items ++ items', ∃ c rest, item.render = c :: rest ∧ c ≠ '\x5d' := by
        intro item hmem
        have hitem : item.Integral := by
          rcases List.mem_append.mp hmem with hmem | hmem
          · exact hj.item hmem
          · exact hj'.item hmem
        obtain ⟨c, rest, hc, -, hne, -⟩ := exists_render_eq_cons hitem.here
        exact ⟨c, rest, hc, hne⟩
      rw [render, render, renderItems_eq_separated, renderItems_eq_separated, List.cons_append,
        List.cons_append, List.cons_append, List.cons_append, List.append_assoc,
        List.append_assoc] at h
      obtain ⟨rfl, hrest⟩ := separated_append_inj (by decide) (by decide) hlead
        (fun item hmem item' hmem' r r' hr hr' h =>
          ih item hmem (hj.item hmem) (hj'.item hmem') hr hr' h
            (kind_eq_of_render_append (hj.item hmem).here (hj'.item hmem').here h))
        (List.cons.inj h).2
      exact ⟨rfl, hrest⟩
    | _ => cases hkind
  | object members ih =>
    cases j' with
    | object members' =>
      have hlead : ∀ member ∈ members ++ members',
          ∃ c rest, renderMember member = c :: rest ∧ c ≠ '\x7d' :=
        fun member _ => ⟨'\x22', _, rfl, by decide⟩
      rw [render, render, renderMembers_eq_separated, renderMembers_eq_separated, List.cons_append,
        List.cons_append, List.cons_append, List.cons_append, List.append_assoc,
        List.append_assoc] at h
      obtain ⟨rfl, hrest⟩ := separated_append_inj (by decide) (by decide) hlead
        (fun member hmem member' hmem' r r' hr hr' h => renderMember_append_inj
          (fun r r' hr hr' h => ih member hmem (hj.member hmem) (hj'.member hmem') hr hr' h
            (kind_eq_of_render_append (hj.member hmem).here (hj'.member hmem').here h)) hr hr' h)
        (List.cons.inj h).2
      exact ⟨rfl, hrest⟩
    | _ => cases hkind

/-- **The compact text determines the value.** -/
theorem render_inj {j j' : Json} (hj : j.Integral) (hj' : j'.Integral)
    (h : j.render = j'.render) : j = j' := by
  refine (render_append_inj hj hj' endsNumber_nil endsNumber_nil ?_).1
  rw [List.append_nil, List.append_nil, h]

/-- **The octets determine the value.** -/
theorem toVec_inj {j j' : Json} (hj : j.Integral) (hj' : j'.Integral) (h : j.toVec = j'.toVec) :
    j = j' :=
  render_inj hj hj' (String.ofList_injective (asBytes_inj.mp h))

end Json
