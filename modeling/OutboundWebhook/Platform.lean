import OutboundWebhook.Foundations.Bytes
import Mathlib.Algebra.Order.Group.Int
import Mathlib.Data.List.Forall2

/-!
# What the plugin calls but does not contain

SHA-256, HMAC-SHA256, the RFC 3339 formatter, the URL parser and the schema planner come from
libraries. They enter the development as one parameter, a `Platform`, together with the two facts
about them that the plugin relies on: a SHA-256 digest has 32 octets, and a formatted UTC time has
the RFC 3339 shape.

## Two clocks of different grain

The application clock counts nanoseconds, within the years that its type holds. A `timestamptz`
column counts microseconds, and binding an application time to a column drops the finer part
(`toTimestamptz`). It is dropped from the distance to 2000-01-01, so that earlier times are moved
forwards.
-/

namespace OutboundWebhook

/-- A `timestamptz`: microseconds since the Unix epoch. -/
abbrev Timestamptz := ℤ

/-- The instants of the years -9999 to 9999, in nanoseconds since the Unix epoch. -/
def IsInstant (nanos : ℤ) : Prop :=
  -377705116800000000000 ≤ nanos ∧ nanos ≤ 253402300799999999999

instance (nanos : ℤ) : Decidable (IsInstant nanos) :=
  inferInstanceAs (Decidable (_ ∧ _))

/-- A UTC instant of the application clock. -/
@[ext]
structure OffsetDateTime where
  unixTimestampNanos : ℤ
  isInstant : IsInstant unixTimestampNanos
  deriving DecidableEq

/-- `OffsetDateTime::UNIX_EPOCH`. -/
instance : Zero OffsetDateTime := ⟨⟨0, by decide⟩⟩

/-- `OffsetDateTime::checked_add` with a number of seconds; `+` panics where it is `none`. -/
def OffsetDateTime.checkedAdd (t : OffsetDateTime) (seconds : ℤ) : Option OffsetDateTime :=
  if h : IsInstant (t.unixTimestampNanos + 1000000000 * seconds) then some ⟨_, h⟩ else none

theorem OffsetDateTime.checkedAdd_eq_some_iff {t t' : OffsetDateTime} {seconds : ℤ} :
    t.checkedAdd seconds = some t' ↔
      t'.unixTimestampNanos = t.unixTimestampNanos + 1000000000 * seconds := by
  obtain ⟨nanos', hnanos'⟩ := t'
  rw [checkedAdd]
  split
  · rw [Option.some.injEq, OffsetDateTime.mk.injEq, eq_comm]
  · rename_i hout
    refine iff_of_false (by simp) ?_
    rintro rfl
    exact hout hnanos'

theorem OffsetDateTime.exists_checkedAdd_iff {t : OffsetDateTime} {seconds : ℤ} :
    (∃ t', t.checkedAdd seconds = some t') ↔
      IsInstant (t.unixTimestampNanos + 1000000000 * seconds) := by
  rw [checkedAdd]
  split <;> simp [*]

/-- The epoch of PostgreSQL, 2000-01-01, in microseconds since the Unix epoch. -/
def pgEpoch : ℤ := 946684800000000

/-- An application time bound to a `timestamptz` column: the whole microseconds of its distance from
2000-01-01. -/
def toTimestamptz (t : OffsetDateTime) : Timestamptz :=
  pgEpoch + (t.unixTimestampNanos - 1000 * pgEpoch).tdiv 1000

/-- A `timestamptz` read back. The clock of the database is taken to stay in the years of
`OffsetDateTime`, beyond which reading a time panics; here such a time is moved to the nearest
instant. -/
def ofTimestamptz (t : Timestamptz) : OffsetDateTime where
  unixTimestampNanos :=
    max (-377705116800000000000) (min 253402300799999999999 (1000 * t))
  isInstant := by
    rw [IsInstant]
    omega

/-- Truncation, on either side of zero. -/
theorem tdiv_thousand (n : ℤ) :
    (0 ≤ n ∧ n.tdiv 1000 = n / 1000) ∨ (n < 0 ∧ n.tdiv 1000 = -(-n / 1000)) := by
  rcases Int.lt_or_le n 0 with hn | hn
  · refine .inr ⟨hn, ?_⟩
    have hneg := Int.neg_tdiv (-n) 1000
    rwa [Int.neg_neg, Int.tdiv_eq_ediv_of_nonneg (show 0 ≤ -n by omega)] at hneg
  · exact .inl ⟨hn, Int.tdiv_eq_ediv_of_nonneg hn⟩

/-- Less than a microsecond is dropped, and nothing of a whole number of them. -/
theorem toTimestamptz_bounds (t : OffsetDateTime) :
    -1000 < t.unixTimestampNanos - 1000 * toTimestamptz t ∧
      t.unixTimestampNanos - 1000 * toTimestamptz t < 1000 ∧
      (t.unixTimestampNanos = 1000 * toTimestamptz t ↔ t.unixTimestampNanos % 1000 = 0) := by
  obtain ⟨n, hn⟩ : ∃ n, n = t.unixTimestampNanos - 1000 * pgEpoch := ⟨_, rfl⟩
  rw [toTimestamptz, ← hn]
  rw [pgEpoch] at *
  rcases tdiv_thousand n with ⟨-, h⟩ | ⟨-, h⟩ <;> rw [h] <;> omega

/-- What is read back of a time that was bound. -/
theorem ofTimestamptz_toTimestamptz (t : OffsetDateTime) :
    (ofTimestamptz (toTimestamptz t)).unixTimestampNanos = 1000 * toTimestamptz t := by
  obtain ⟨hlow, hhigh⟩ := t.isInstant
  obtain ⟨n, hn⟩ : ∃ n, n = t.unixTimestampNanos - 1000 * pgEpoch := ⟨_, rfl⟩
  simp only [ofTimestamptz, toTimestamptz, ← hn]
  rw [pgEpoch] at *
  rcases tdiv_thousand n with ⟨hsign, h⟩ | ⟨hsign, h⟩ <;> rw [h] <;> omega

/-- `interval`s are whole numbers of seconds here. -/
def seconds (n : ℤ) : Timestamptz := n * 1000000

/-! ### RFC 3339 -/

/-- `dddd-dd-ddTdd:dd:dd`, one class of octets for each place. -/
def dateTimeShape : List (UInt8 → Bool) :=
  [isAsciiDigit, isAsciiDigit, isAsciiDigit, isAsciiDigit, (· == 0x2d),
   isAsciiDigit, isAsciiDigit, (· == 0x2d), isAsciiDigit, isAsciiDigit, (· == 0x54),
   isAsciiDigit, isAsciiDigit, (· == 0x3a), isAsciiDigit, isAsciiDigit, (· == 0x3a),
   isAsciiDigit, isAsciiDigit]

/-- Nothing, or a dot followed by digits. -/
def IsFraction (bs : Bytes) : Prop :=
  bs = [] ∨ ∃ digits, digits ≠ [] ∧ (∀ d ∈ digits, isAsciiDigit d) ∧ bs = 0x2e :: digits

/-- A UTC instant in RFC 3339: date and time to the second, an optional fraction, and `Z`. -/
def IsRfc3339Utc (s : String) : Prop :=
  ∃ dateTime fraction, List.Forall₂ (fun (p : UInt8 → Bool) b => p b) dateTimeShape dateTime ∧
    IsFraction fraction ∧ asBytes s = dateTime ++ fraction ++ [0x5a]

/-- Every octet lies in one of the classes. -/
theorem exists_class_of_mem {shape : List (UInt8 → Bool)} {bs : Bytes}
    (h : List.Forall₂ (fun (p : UInt8 → Bool) b => p b) shape bs) {b : UInt8} (hb : b ∈ bs) :
    ∃ p ∈ shape, p b := by
  obtain ⟨i, hi, rfl⟩ := List.mem_iff_getElem.mp hb
  have hlen := h.length_eq
  exact ⟨_, List.getElem_mem (hlen ▸ hi), (List.forall₂_iff_get.mp h).2 i (hlen ▸ hi) hi⟩

theorem dateTimeShape_class {p : UInt8 → Bool} (hp : p ∈ dateTimeShape) :
    p = isAsciiDigit ∨ p = (· == 0x2d) ∨ p = (· == 0x54) ∨ p = (· == 0x3a) := by
  simp only [dateTimeShape, List.mem_cons, List.not_mem_nil, or_false] at hp
  tauto

theorem isVisibleAscii_of_mem_dateTimeShape {p : UInt8 → Bool} (hp : p ∈ dateTimeShape)
    {b : UInt8} (hb : p b) : IsVisibleAscii b := by
  rcases dateTimeShape_class hp with rfl | rfl | rfl | rfl
  · exact isVisibleAscii_of_isAsciiDigit hb
  all_goals
    rw [beq_iff_eq] at hb
    subst hb
    decide

theorem IsRfc3339Utc.isVisibleAscii {s : String} (h : IsRfc3339Utc s) :
    ∀ b ∈ asBytes s, IsVisibleAscii b := by
  obtain ⟨dateTime, fraction, hdate, hfrac, hs⟩ := h
  intro b hb
  rw [hs, List.mem_append, List.mem_append, List.mem_singleton] at hb
  rcases hb with (hb | hb) | rfl
  · obtain ⟨p, hp, hpb⟩ := exists_class_of_mem hdate hb
    exact isVisibleAscii_of_mem_dateTimeShape hp hpb
  · rcases hfrac with rfl | ⟨digits, -, hdigits, rfl⟩
    · simp at hb
    · rcases List.mem_cons.mp hb with rfl | hb
      · decide
      · exact isVisibleAscii_of_isAsciiDigit (hdigits b hb)
  · decide

theorem IsRfc3339Utc.ne_empty {s : String} (h : IsRfc3339Utc s) : asBytes s ≠ [] := by
  obtain ⟨dateTime, fraction, -, -, hs⟩ := h
  simp [hs]

/-- Only the last octet is a `Z`. -/
theorem IsRfc3339Utc.exists_body {s : String} (h : IsRfc3339Utc s) :
    ∃ body, 0x5a ∉ body ∧ asBytes s = body ++ [0x5a] := by
  obtain ⟨dateTime, fraction, hdate, hfrac, hs⟩ := h
  refine ⟨dateTime ++ fraction, ?_, hs⟩
  intro hmem
  rcases List.mem_append.mp hmem with hmem | hmem
  · obtain ⟨p, hp, hpb⟩ := exists_class_of_mem hdate hmem
    rcases dateTimeShape_class hp with rfl | rfl | rfl | rfl <;> exact absurd hpb (by decide)
  · rcases hfrac with rfl | ⟨digits, -, hdigits, rfl⟩
    · exact List.not_mem_nil hmem
    · rcases List.mem_cons.mp hmem with hdot | hdigit
      · exact absurd hdot (by decide)
      · exact absurd (hdigits _ hdigit) (by decide)

/-! ### The parameter -/

/-- What the plugin reads of a parsed URL. -/
structure Url where
  scheme : String
  hostStr : Option String
  username : String
  password : Option String
  query : Option String
  fragment : Option String
  /-- The normalised serialisation. -/
  asStr : String
  /-- `origin().ascii_serialization()`. -/
  originAscii : String

/-- The library functions the plugin calls. -/
structure Platform where
  /-- `Sha256::digest`. -/
  sha256 : Bytes → Bytes
  length_sha256 : ∀ m, (sha256 m).length = 32
  /-- `HmacSha256::new_from_slice`, then the code of a message; `none` refuses the key. -/
  hmacSha256 : Bytes → Option (Bytes → Bytes)
  /-- `OffsetDateTime::format(&Rfc3339)`, or the text of its error. -/
  formatRfc3339 : OffsetDateTime → Except String String
  formatRfc3339_shape : ∀ t s, formatRfc3339 t = .ok s → IsRfc3339Utc s
  /-- `Url::parse`. -/
  parseUrl : String → Option Url
  /-- `SchemaPlan::new` over the authored migrations, or the text of its error. -/
  schemaPlan : String → Except String Unit

end OutboundWebhook
