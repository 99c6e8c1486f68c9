import OutboundWebhook.Config
import OutboundWebhook.Foundations.Segments
import Mathlib.Tactic.Tauto

/-!
# Secret references

A secret is resolved by a reference of the configuration. `validSecretReference` is a conjunction
of global tests — the ends, doubled slashes, the pieces of a split, the octets, the length. Here
it is compared with a grammar: a reference is a path of one or more segments, and a segment is a
non-empty word over letters, digits, dots, underscores and hyphens that is neither `.` nor `..`.

## Where a path leads

`walk` follows a path from a directory the way a file system does. A path of the grammar leads to
a place below the directory it starts from.
-/

namespace OutboundWebhook

/-! ### The grammar -/

/-- A letter, a digit, or one of three marks. -/
def IsSegmentChar (c : Char) : Prop := c.isAlphanum ∨ c = '.' ∨ c = '_' ∨ c = '-'

/-- A segment of a path. -/
structure IsSegment (segment : List Char) : Prop where
  nonempty : segment ≠ []
  not_dot : segment ≠ ['.']
  not_dot_dot : segment ≠ ['.', '.']
  chars : ∀ c ∈ segment, IsSegmentChar c

/-- A path of one or more segments, at most 256 octets long. -/
def IsReferencePath (value : String) (segments : List (List Char)) : Prop :=
  (asBytes value).length ≤ 256 ∧ segments ≠ [] ∧ (∀ segment ∈ segments, IsSegment segment) ∧
    value.toList = ['/'].intercalate segments

/-- Where a path leads from a directory. -/
def walk : List (List Char) → List (List Char) → List (List Char)
  | directory, [] => directory
  | directory, segment :: rest =>
    if segment = ['.', '.'] then walk directory.dropLast rest
    else if segment = [] ∨ segment = ['.'] then walk directory rest
    else walk (directory ++ [segment]) rest

/-! ### Characters and octets -/

/-- The octets that the code allows. -/
def isReferenceOctet (b : UInt8) : Bool :=
  isAsciiAlphanumeric b || b == 0x2e || b == 0x5f || b == 0x2d || b == 0x2f

theorem isReferenceOctet_lt {b : UInt8} (h : isReferenceOctet b) : b.toNat < 0x80 := by
  simp only [isReferenceOctet, isAsciiAlphanumeric, isAsciiDigit, Bool.or_eq_true,
    Bool.and_eq_true, decide_eq_true_eq, beq_iff_eq, UInt8.le_iff_toNat_le,
    ← UInt8.toNat_inj, UInt8.reduceToNat] at h
  omega

theorem eq_iff_toNat_val {c d : Char} : c = d ↔ c.val.toNat = d.val.toNat := by
  rw [UInt32.toNat_inj, Char.ext_iff]

theorem isAlphanum_iff {c : Char} :
    c.isAlphanum = true ↔ (65 ≤ c.val.toNat ∧ c.val.toNat ≤ 90) ∨
      (97 ≤ c.val.toNat ∧ c.val.toNat ≤ 122) ∨ (48 ≤ c.val.toNat ∧ c.val.toNat ≤ 57) := by
  show ((decide ('A'.val ≤ c.val ∧ c.val ≤ 'Z'.val) ||
    (decide ('a'.val ≤ c.val) && decide (c.val ≤ 'z'.val))) ||
    (decide ('0'.val ≤ c.val) && decide (c.val ≤ '9'.val))) = true ↔ _
  simp only [Bool.or_eq_true, Bool.and_eq_true, decide_eq_true_eq, UInt32.le_iff_toNat_le,
    UInt32.reduceToNat, Char.reduceVal, or_assoc]

theorem isReferenceOctet_iff {c : Char} (h : IsAscii c) :
    isReferenceOctet c.val.toUInt8 ↔ IsSegmentChar c ∨ c = '/' := by
  have hlt : c.val.toNat < 0x80 := UInt32.lt_iff_toNat_lt.mp h
  have hoctet : c.val.toUInt8.toNat = c.val.toNat := by
    rw [UInt32.toNat_toUInt8]
    omega
  simp only [isReferenceOctet, isAsciiAlphanumeric, isAsciiDigit, Bool.or_eq_true,
    Bool.and_eq_true, decide_eq_true_eq, beq_iff_eq, UInt8.le_iff_toNat_le, ← UInt8.toNat_inj,
    UInt8.reduceToNat, hoctet, IsSegmentChar, isAlphanum_iff, eq_iff_toNat_val,
    UInt32.reduceToNat, Char.reduceVal]
  omega

theorem IsSegmentChar.isAscii {c : Char} (h : IsSegmentChar c) : IsAscii c := by
  simp only [IsSegmentChar, isAlphanum_iff, eq_iff_toNat_val, UInt32.reduceToNat,
    Char.reduceVal] at h
  rw [IsAscii, UInt32.lt_iff_toNat_lt]
  have hbound : c.val.toNat < 128 := by omega
  exact hbound

theorem slash_not_isSegmentChar : ¬IsSegmentChar '/' := by
  simp [IsSegmentChar]

/-! ### The code against the grammar -/

/-- The tests on the ends and on doubled slashes are one test on the segments. -/
theorem validSecretReference_iff (value : String) :
    validSecretReference value = true ↔
      (asBytes value).length ≤ 256 ∧ [] ∉ value.toList.splitOn '/' ∧
        (∀ segment ∈ value.toList.splitOn '/', segment ≠ ['.'] ∧ segment ≠ ['.', '.']) ∧
        ∀ c ∈ value.toList, IsSegmentChar c ∨ c = '/' := by
  have hempty : (asBytes value).isEmpty = true ↔ value.toList = [] := by
    rw [List.isEmpty_iff, asBytes_eq_nil_iff, String.toList_eq_nil_iff]
  have hoctets : (asBytes value).all isReferenceOctet = true ↔
      ∀ c ∈ value.toList, IsSegmentChar c ∨ c = '/' := by
    rw [List.all_eq_true, forall_mem_asBytes_iff fun b => isReferenceOctet_lt]
    refine forall₂_congr ?_
    intro c _
    constructor
    · rintro ⟨hascii, h⟩
      exact (isReferenceOctet_iff hascii).mp h
    · intro h
      have hascii : IsAscii c := h.elim IsSegmentChar.isAscii fun heq => heq ▸ by decide
      exact ⟨hascii, (isReferenceOctet_iff hascii).mpr h⟩
  show (!(asBytes value).isEmpty && _ && _ && _ && _ && _ && (asBytes value).all isReferenceOctet)
    = true ↔ _
  rw [Segments.nil_mem_splitOn_iff, ← hempty]
  simp only [Bool.and_eq_true, Bool.not_eq_true', decide_eq_true_eq, decide_eq_false_iff_not,
    bne_iff_ne, List.all_eq_true, ← hoctets, not_or, Bool.not_eq_true]
  rw [show maxReferenceBytes = 256 from rfl]
  tauto

theorem forall_isSegment_iff (value : String) :
    (∀ segment ∈ value.toList.splitOn '/', IsSegment segment) ↔
      [] ∉ value.toList.splitOn '/' ∧
        (∀ segment ∈ value.toList.splitOn '/', segment ≠ ['.'] ∧ segment ≠ ['.', '.']) ∧
        ∀ c ∈ value.toList, IsSegmentChar c ∨ c = '/' := by
  constructor
  · intro h
    refine ⟨fun hnil => (h [] hnil).nonempty rfl, ?_, ?_⟩
    · intro segment hmem
      exact ⟨(h segment hmem).not_dot, (h segment hmem).not_dot_dot⟩
    · intro c hc
      by_cases hslash : c = '/'
      · exact .inr hslash
      · obtain ⟨segment, hmem, hcs⟩ := (Segments.mem_iff_of_ne hslash).mp hc
        exact .inl ((h segment hmem).chars c hcs)
  · rintro ⟨hnil, hdots, hchars⟩ segment hmem
    refine ⟨fun h => hnil (h ▸ hmem), (hdots segment hmem).1, (hdots segment hmem).2, ?_⟩
    intro c hc
    have hslash : c ≠ '/' := by
      rintro rfl
      exact Segments.notMem_of_mem_splitOn hmem hc
    have hvalue := (Segments.mem_iff_of_ne hslash).mpr ⟨segment, hmem, hc⟩
    exact (hchars c hvalue).resolve_right hslash

/-- The segments of a path are the pieces of its split. -/
theorem IsReferencePath.segments_eq {value : String} {segments : List (List Char)}
    (h : IsReferencePath value segments) : segments = value.toList.splitOn '/' := by
  obtain ⟨-, hne, hsegments, hvalue⟩ := h
  rw [hvalue, List.splitOn_intercalate]
  · intro segment hmem hslash
    exact slash_not_isSegmentChar ((hsegments segment hmem).chars _ hslash)
  · exact hne

/-- A path of the grammar leads downwards. -/
theorem walk_of_isSegment {segments : List (List Char)}
    (h : ∀ segment ∈ segments, IsSegment segment) (directory : List (List Char)) :
    walk directory segments = directory ++ segments := by
  induction segments generalizing directory with
  | nil => rw [walk, List.append_nil]
  | cons segment rest ih =>
    have hsegment := h segment List.mem_cons_self
    rw [walk, if_neg hsegment.not_dot_dot,
      if_neg (not_or.mpr ⟨hsegment.nonempty, hsegment.not_dot⟩),
      ih fun other hother => h other (List.mem_cons_of_mem _ hother), List.append_assoc,
      List.singleton_append]

/-- **The grammar of secret references.** A reference is accepted exactly when it is a path of the
grammar. An accepted one is relative, has no empty segment, and leads to a place below the
directory it starts from. -/
theorem secret_reference_grammar (value : String) :
    (validSecretReference value = true ↔ ∃ segments, IsReferencePath value segments) ∧
      (validSecretReference value = true →
        value.toList.head? ≠ some '/' ∧ [] ∉ value.toList.splitOn '/' ∧
          ∀ directory, walk directory (value.toList.splitOn '/')
            = directory ++ value.toList.splitOn '/') := by
  have hiff : validSecretReference value = true ↔
      (asBytes value).length ≤ 256 ∧ ∀ segment ∈ value.toList.splitOn '/', IsSegment segment := by
    rw [validSecretReference_iff, forall_isSegment_iff]
  refine ⟨?_, ?_⟩
  · rw [hiff]
    constructor
    · rintro ⟨hlength, hsegments⟩
      exact ⟨_, hlength, List.splitOn_ne_nil _ _, hsegments, (List.intercalate_splitOn '/').symm⟩
    · rintro ⟨segments, hpath⟩
      have heq := hpath.segments_eq
      obtain ⟨hlength, -, hsegments, -⟩ := hpath
      exact ⟨hlength, heq ▸ hsegments⟩
  · intro h
    obtain ⟨-, hnil, -⟩ := (validSecretReference_iff value).mp h
    refine ⟨fun hhead => hnil ?_, hnil, walk_of_isSegment (hiff.mp h).2⟩
    exact Segments.nil_mem_splitOn_iff.mpr (.inr (.inl hhead))

example : validSecretReference "webhook/signing-key" = true ∧
    validSecretReference "webhook/../signing-key" = false := by decide +kernel

end OutboundWebhook
