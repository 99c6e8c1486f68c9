import Mathlib.Data.List.Basic
import Mathlib.Data.String.Basic

/-!
# Byte strings

`Bytes` is a sequence of octets and `asBytes` the UTF-8 encoding of a string. Texts are compared,
measured and hashed as bytes, so this is where a statement about characters becomes a statement
about octets. The encoding is injective (`asBytes_inj`), turns concatenation into concatenation
(`asBytes_append`), and spells an ASCII character as one octet (`asBytes_ofList`).
-/

/-- A sequence of octets. -/
abbrev Bytes := List UInt8

/-- The UTF-8 encoding. -/
def asBytes (s : String) : Bytes := s.toByteArray.data.toList

theorem asBytes_inj {s t : String} : asBytes s = asBytes t ↔ s = t := by
  constructor
  · intro h
    exact String.toByteArray_inj.mp (ByteArray.ext (Array.toList_inj.mp h))
  · rintro rfl
    rfl

@[simp] theorem asBytes_append (s t : String) : asBytes (s ++ t) = asBytes s ++ asBytes t := by
  simp [asBytes]

@[simp] theorem asBytes_empty : asBytes "" = [] := rfl

theorem asBytes_eq_nil_iff {s : String} : asBytes s = [] ↔ s = "" := by
  rw [← asBytes_empty, asBytes_inj]

/-- The ASCII characters. -/
def IsAscii (c : Char) : Prop := c.val < 0x80

instance (c : Char) : Decidable (IsAscii c) := inferInstanceAs (Decidable (_ < _))

theorem utf8EncodeChar_of_isAscii {c : Char} (h : IsAscii c) :
    String.utf8EncodeChar c = [c.val.toUInt8] := by
  have hv : c.val.toNat ≤ 0x7f := by
    have h' : c.val.toNat < 0x80 := UInt32.lt_iff_toNat_lt.mp h
    omega
  simp only [String.utf8EncodeChar, if_pos hv]
  rfl

theorem asBytes_ofList_cons (c : Char) (cs : List Char) :
    asBytes (String.ofList (c :: cs)) = String.utf8EncodeChar c ++ asBytes (String.ofList cs) := by
  have hone : asBytes (String.ofList [c]) = String.utf8EncodeChar c := by
    rw [asBytes, String.toByteArray_ofList, List.utf8Encode_singleton]
    simp
  rw [← List.singleton_append, String.ofList_append, asBytes_append, hone]

/-- An ASCII text is spelled one octet a character. -/
theorem asBytes_ofList {cs : List Char} (h : ∀ c ∈ cs, IsAscii c) :
    asBytes (String.ofList cs) = cs.map fun c => c.val.toUInt8 := by
  induction cs with
  | nil => rfl
  | cons c cs ih =>
    rw [asBytes_ofList_cons, utf8EncodeChar_of_isAscii (h c List.mem_cons_self),
      ih fun d hd => h d (List.mem_cons_of_mem _ hd)]
    rfl

/-- Any other character starts with an octet that is not ASCII. -/
theorem exists_octet_of_not_isAscii {c : Char} (h : ¬IsAscii c) :
    ∃ b ∈ String.utf8EncodeChar c, 0x80 ≤ b.toNat := by
  have hv : ¬c.val.toNat ≤ 0x7f := by
    intro hle
    exact h (UInt32.lt_iff_toNat_lt.mpr (Nat.lt_succ_of_le hle))
  simp only [String.utf8EncodeChar, if_neg hv]
  split_ifs
  all_goals
    refine ⟨_, List.mem_cons_self, ?_⟩
    rw [UInt8.toNat_ofNat']
    omega

/-- **A class of ASCII octets.** A text lies in it octet by octet exactly when it does character by
character. -/
theorem forall_mem_asBytes_iff {p : UInt8 → Prop} (hp : ∀ b, p b → b.toNat < 0x80) {s : String} :
    (∀ b ∈ asBytes s, p b) ↔ ∀ c ∈ s.toList, IsAscii c ∧ p c.val.toUInt8 := by
  rw [← String.ofList_toList (s := s), String.toList_ofList]
  induction s.toList with
  | nil => simp
  | cons c cs ih =>
    rw [asBytes_ofList_cons, List.forall_mem_append, List.forall_mem_cons, ih]
    refine and_congr_left ?_
    intro _
    constructor
    · intro h
      by_cases hascii : IsAscii c
      · rw [utf8EncodeChar_of_isAscii hascii] at h
        exact ⟨hascii, h _ List.mem_cons_self⟩
      · obtain ⟨b, hb, hlarge⟩ := exists_octet_of_not_isAscii hascii
        exact absurd (hp b (h b hb)) (not_lt.mpr hlarge)
    · rintro ⟨hascii, h⟩ b hb
      rw [utf8EncodeChar_of_isAscii hascii, List.mem_singleton] at hb
      exact hb ▸ h

/-- A character takes one to four octets. -/
theorem length_asBytes_ofList (cs : List Char) :
    cs.length ≤ (asBytes (String.ofList cs)).length ∧
      (asBytes (String.ofList cs)).length ≤ 4 * cs.length := by
  show cs.length ≤ (String.ofList cs).utf8ByteSize ∧ (String.ofList cs).utf8ByteSize ≤ 4 * cs.length
  rw [String.utf8ByteSize_ofList]
  induction cs with
  | nil => exact ⟨Nat.le_refl 0, Nat.le_refl 0⟩
  | cons c cs ih =>
    have hpos := c.utf8Size_pos
    have hfour := c.utf8Size_le_four
    rw [String.utf8Len_cons, List.length_cons]
    omega

theorem prefix_of_separator {x c y y' : Bytes} {b : UInt8} (hy : b ∉ y)
    (h : b :: y = c ++ b :: y') : x = x ++ c ∧ y = y' := by
  cases c with
  | nil => exact ⟨(List.append_nil x).symm, (List.cons.inj h).2⟩
  | cons d c =>
    rw [List.cons_append, List.cons.injEq] at h
    exact absurd (h.2 ▸ List.mem_append_cons_self) hy

/-- **Two texts around a separator that the second one does not contain.** -/
theorem append_separator_inj {x y x' y' : Bytes} {b : UInt8} (hy : b ∉ y) (hy' : b ∉ y')
    (h : x ++ [b] ++ y = x' ++ [b] ++ y') : x = x' ∧ y = y' := by
  rw [List.append_assoc, List.append_assoc, List.singleton_append, List.singleton_append,
    List.append_eq_append_iff] at h
  rcases h with ⟨c, hx, hc⟩ | ⟨c, hx, hc⟩
  · obtain ⟨hnil, heq⟩ := prefix_of_separator (x := x) hy hc
    exact ⟨hnil.trans hx.symm, heq⟩
  · obtain ⟨hnil, heq⟩ := prefix_of_separator (x := x') hy' hc
    exact ⟨(hnil.trans hx.symm).symm, heq.symm⟩

/-- **Two texts after a separator that the first one does not contain.** -/
theorem append_cons_inj {x y x' y' : Bytes} {b : UInt8} (hx : b ∉ x) (hx' : b ∉ x')
    (h : x ++ b :: y = x' ++ b :: y') : x = x' ∧ y = y' := by
  induction x generalizing x' with
  | nil =>
    cases x' with
    | nil => exact ⟨rfl, (List.cons.inj h).2⟩
    | cons d x' => exact absurd (List.mem_cons.mpr (.inl (List.cons.inj h).1)) hx'
  | cons c x ih =>
    cases x' with
    | nil => exact absurd (List.mem_cons.mpr (.inl (List.cons.inj h).1.symm)) hx
    | cons d x' =>
      obtain ⟨rfl, htail⟩ := List.cons.inj h
      have hrest := ih (fun hmem => hx (List.mem_cons_of_mem _ hmem))
        (fun hmem => hx' (List.mem_cons_of_mem _ hmem)) htail
      exact ⟨by rw [hrest.1], hrest.2⟩

/-! ### Octet classes -/

/-- A printable ASCII octet other than the space. -/
def IsVisibleAscii (b : UInt8) : Prop := 0x21 ≤ b ∧ b ≤ 0x7e

instance (b : UInt8) : Decidable (IsVisibleAscii b) := inferInstanceAs (Decidable (_ ∧ _))

/-- An ASCII digit. -/
def isAsciiDigit (b : UInt8) : Bool := 0x30 ≤ b && b ≤ 0x39

/-- An ASCII letter or digit. -/
def isAsciiAlphanumeric (b : UInt8) : Bool :=
  isAsciiDigit b || (0x41 ≤ b && b ≤ 0x5a) || (0x61 ≤ b && b ≤ 0x7a)

/-- An ASCII hexadecimal digit of either case. -/
def isAsciiHexdigit (b : UInt8) : Bool :=
  isAsciiDigit b || (0x41 ≤ b && b ≤ 0x46) || (0x61 ≤ b && b ≤ 0x66)

theorem isVisibleAscii_of_isAsciiDigit {b : UInt8} (h : isAsciiDigit b) : IsVisibleAscii b := by
  simp only [isAsciiDigit, Bool.and_eq_true, decide_eq_true_eq, UInt8.le_iff_toNat_le] at h
  simp only [IsVisibleAscii, UInt8.le_iff_toNat_le]
  exact ⟨le_trans (by decide) h.1, le_trans h.2 (by decide)⟩

theorem isVisibleAscii_of_isAsciiAlphanumeric {b : UInt8} (h : isAsciiAlphanumeric b) :
    IsVisibleAscii b := by
  simp only [isAsciiAlphanumeric, Bool.or_eq_true, Bool.and_eq_true, decide_eq_true_eq] at h
  rcases h with (h | h) | h
  · exact isVisibleAscii_of_isAsciiDigit h
  · simp only [UInt8.le_iff_toNat_le] at h
    simp only [IsVisibleAscii, UInt8.le_iff_toNat_le]
    exact ⟨le_trans (by decide) h.1, le_trans h.2 (by decide)⟩
  · simp only [UInt8.le_iff_toNat_le] at h
    simp only [IsVisibleAscii, UInt8.le_iff_toNat_le]
    exact ⟨le_trans (by decide) h.1, le_trans h.2 (by decide)⟩

/-- A text that is safe as the value of a header: not empty, and visible throughout. -/
def IsVisibleText (s : String) : Prop := asBytes s ≠ [] ∧ ∀ b ∈ asBytes s, IsVisibleAscii b

instance (s : String) : Decidable (IsVisibleText s) :=
  decidable_of_iff (asBytes s ≠ [] ∧ (asBytes s).all fun b => IsVisibleAscii b) <| by
    simp [IsVisibleText]

theorem IsVisibleText.append {s t : String} (hs : IsVisibleText s)
    (ht : ∀ b ∈ asBytes t, IsVisibleAscii b) : IsVisibleText (s ++ t) := by
  rw [IsVisibleText, asBytes_append]
  refine ⟨List.append_ne_nil_of_left_ne_nil hs.1 _, ?_⟩
  intro b hb
  exact (List.mem_append.mp hb).elim (hs.2 b) (ht b)
