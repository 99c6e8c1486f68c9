import OutboundWebhook.Foundations.Bytes

/-!
# UTC instants in RFC 3339

`Calendar.rfc3339` writes an instant, counted in nanoseconds from the Unix epoch, as a date and a
time of day in UTC: `2026-08-30T00:00:00Z`, with a fraction of a second when there is one and
without its trailing zeros. It is defined for the years that four digits can write.

The date is found by counting in eras of 400 years that begin in March, so that a leap day is the
last day of its year.
-/

namespace Calendar

/-- A day of the proleptic Gregorian calendar. -/
structure Date where
  year : ℤ
  month : ℤ
  day : ℤ

/-- The date of a day counted from the Unix epoch. -/
def civil (days : ℤ) : Date :=
  let shifted := days + 719468
  let era := shifted / 146097
  let dayOfEra := shifted % 146097
  let yearOfEra :=
    (dayOfEra - dayOfEra / 1460 + dayOfEra / 36524 - dayOfEra / 146096) / 365
  let dayOfYear := dayOfEra - (365 * yearOfEra + yearOfEra / 4 - yearOfEra / 100)
  let shiftedMonth := (5 * dayOfYear + 2) / 153
  let month := if shiftedMonth < 10 then shiftedMonth + 3 else shiftedMonth - 9
  { year := yearOfEra + era * 400 + if month ≤ 2 then 1 else 0
    month := month
    day := dayOfYear - (153 * shiftedMonth + 2) / 5 + 1 }

/-- The last decimal digit. -/
def digit (n : ℕ) : Char := Char.ofNat (0x30 + n % 10)

def twoDigits (n : ℕ) : List Char := [digit (n / 10), digit n]

def fourDigits (n : ℕ) : List Char := twoDigits (n / 100) ++ twoDigits n

/-- Nine digits without the trailing zeros. -/
def fractionDigits (nanoseconds : ℕ) : List Char :=
  ((List.range 9).map fun i => digit (nanoseconds / 10 ^ (8 - i))).reverse.dropWhile (· == '0')
    |>.reverse

/-- A dot and the digits, or nothing. -/
def fraction (nanoseconds : ℕ) : List Char :=
  match fractionDigits nanoseconds with
  | [] => []
  | digits => '.' :: digits

/-- Date and time to the second. -/
def dateTime (t : ℤ) : List Char :=
  let date := civil (t / 86400000000000)
  let second := (t % 86400000000000 / 1000000000).toNat
  fourDigits date.year.toNat ++ '-' :: twoDigits date.month.toNat ++ '-' :: twoDigits date.day.toNat
    ++ 'T' :: twoDigits (second / 3600) ++ ':' :: twoDigits (second / 60 % 60)
    ++ ':' :: twoDigits (second % 60)

/-- The instant in RFC 3339, if its year has four digits. -/
def rfc3339 (t : ℤ) : Option String :=
  if 0 ≤ (civil (t / 86400000000000)).year ∧ (civil (t / 86400000000000)).year ≤ 9999 then
    some (String.ofList (dateTime t ++ fraction (t % 1000000000).toNat ++ ['Z']))
  else none

example : rfc3339 1788048000500000000 = some "2026-08-30T00:00:00.5Z" := by decide +kernel

/-! ### Digits are digits -/

theorem isAscii_digit (n : ℕ) : IsAscii (digit n) := by
  have h : ∀ k < 10, IsAscii (Char.ofNat (0x30 + k)) := by decide
  exact h _ (Nat.mod_lt n (by decide))

theorem isAsciiDigit_digit (n : ℕ) : isAsciiDigit (digit n).toUInt8 := by
  have h : ∀ k < 10, isAsciiDigit (Char.ofNat (0x30 + k)).toUInt8 := by decide
  exact h _ (Nat.mod_lt n (by decide))

theorem exists_digit_of_mem_fractionDigits {nanoseconds : ℕ} {c : Char}
    (h : c ∈ fractionDigits nanoseconds) : ∃ n, c = digit n := by
  rw [fractionDigits, List.mem_reverse] at h
  have hmem := (List.dropWhile_sublist _).subset h
  rw [List.mem_reverse, List.mem_map] at hmem
  obtain ⟨i, -, rfl⟩ := hmem
  exact ⟨_, rfl⟩

theorem isAscii_of_mem_fraction {nanoseconds : ℕ} {c : Char} (h : c ∈ fraction nanoseconds) :
    IsAscii c := by
  unfold fraction at h
  split at h
  · exact nomatch h
  · rcases List.mem_cons.mp h with rfl | hc
    · decide
    · obtain ⟨n, rfl⟩ := exists_digit_of_mem_fractionDigits hc
      exact isAscii_digit n

theorem isAscii_of_mem_dateTime (t : ℤ) : ∀ c ∈ dateTime t, IsAscii c := by
  have hhyphen : IsAscii '-' := by decide
  have hcolon : IsAscii ':' := by decide
  have hletter : IsAscii 'T' := by decide
  simp [dateTime, fourDigits, twoDigits, isAscii_digit, hhyphen, hcolon, hletter]

/-- The octets of the text, part by part. -/
theorem asBytes_rfc3339 {t : ℤ} {s : String} (h : rfc3339 t = some s) :
    asBytes s = (dateTime t).map (fun c => c.val.toUInt8)
      ++ (fraction (t % 1000000000).toNat).map (fun c => c.val.toUInt8) ++ [0x5a] := by
  rw [rfc3339] at h
  split at h
  · rw [Option.some.injEq] at h
    subst h
    have hascii : ∀ c ∈ dateTime t ++ fraction (t % 1000000000).toNat ++ ['Z'], IsAscii c := by
      intro c hc
      rcases List.mem_append.mp hc with hc | hc
      · rcases List.mem_append.mp hc with hc | hc
        · exact isAscii_of_mem_dateTime t c hc
        · exact isAscii_of_mem_fraction hc
      · rw [List.mem_singleton.mp hc]
        decide
    rw [asBytes_ofList hascii, List.map_append, List.map_append]
    rfl
  · exact nomatch h

/-! ### The text determines the instant up to whole seconds -/

theorem digit_inj {n m : ℕ} (h : digit n = digit m) : n % 10 = m % 10 := by
  have hinj : ∀ k < 10, ∀ l < 10, Char.ofNat (0x30 + k) = Char.ofNat (0x30 + l) → k = l := by
    decide
  exact hinj _ (Nat.mod_lt n (by decide)) _ (Nat.mod_lt m (by decide)) h

/-- Lists of one length differ, if at all, after their leading zeros. -/
theorem eq_of_dropWhile_eq {l l' : List Char} (hlen : l.length = l'.length)
    (h : l.dropWhile (· == '0') = l'.dropWhile (· == '0')) : l = l' := by
  have hzeros : ∀ l : List Char, l.takeWhile (· == '0')
      = List.replicate (l.length - (l.dropWhile (· == '0')).length) '0' := by
    intro l
    have hsplit := congrArg List.length (List.takeWhile_append_dropWhile (p := (· == '0')) (l := l))
    rw [List.length_append] at hsplit
    refine List.eq_replicate_iff.mpr ⟨by omega, ?_⟩
    intro c hc
    exact beq_iff_eq.mp (List.all_eq_true.mp List.all_takeWhile c hc)
  rw [← List.takeWhile_append_dropWhile (p := (· == '0')) (l := l), hzeros, h, hlen, ← hzeros,
    List.takeWhile_append_dropWhile]

/-- Numbers of `k` digits are told apart by them. -/
theorem eq_of_digits {k n m : ℕ} (hn : n < 10 ^ k) (hm : m < 10 ^ k)
    (h : ∀ i < k, n / 10 ^ i % 10 = m / 10 ^ i % 10) : n = m := by
  induction k generalizing n m with
  | zero =>
    rw [Nat.pow_zero] at hn hm
    omega
  | succ k ih =>
    rw [Nat.pow_succ] at hn hm
    have hlast : n % 10 = m % 10 := by
      have h0 := h 0 (Nat.zero_lt_succ k)
      rwa [Nat.pow_zero, Nat.div_one, Nat.div_one] at h0
    have hrest : n / 10 = m / 10 := by
      refine ih (by omega) (by omega) ?_
      intro i hi
      rw [Nat.div_div_eq_div_mul, Nat.div_div_eq_div_mul, ← Nat.pow_succ']
      exact h (i + 1) (Nat.succ_lt_succ hi)
    omega

theorem fractionDigits_inj {n m : ℕ} (hn : n < 1000000000) (hm : m < 1000000000)
    (h : fractionDigits n = fractionDigits m) : n = m := by
  have hlists := eq_of_dropWhile_eq (by simp) (List.reverse_injective h)
  have hdigits := List.map_inj_left.mp (List.reverse_injective hlists)
  refine eq_of_digits (k := 9) hn hm ?_
  intro i hi
  have hplace := digit_inj (hdigits (8 - i) (List.mem_range.mpr (by omega)))
  rwa [Nat.sub_sub_self (by omega)] at hplace

theorem fraction_inj {n m : ℕ} (hn : n < 1000000000) (hm : m < 1000000000)
    (h : fraction n = fraction m) : n = m := by
  refine fractionDigits_inj hn hm ?_
  rw [fraction, fraction] at h
  cases hd : fractionDigits n <;> cases hd' : fractionDigits m <;> simp [hd, hd'] at h ⊢
  exact h

theorem length_dateTime (t : ℤ) : (dateTime t).length = 19 := by
  simp [dateTime, fourDigits, twoDigits]

/-- **Two instants less than a second apart have different texts.** -/
theorem rfc3339_inj {t t' : ℤ} {s : String} (hafter : -1000000000 < t - t')
    (hbefore : t - t' < 1000000000) (h : rfc3339 t = some s) (h' : rfc3339 t' = some s) :
    t = t' := by
  rw [rfc3339] at h h'
  split at h
  · split at h'
    · have hchars := String.ofList_injective (Option.some.inj (h.trans h'.symm))
      have hlength : (dateTime t).length = (dateTime t').length := by
        rw [length_dateTime, length_dateTime]
      have hfraction := fraction_inj (by omega) (by omega)
        (List.append_inj (List.append_cancel_right hchars) hlength).2
      omega
    · cases h'
  · cases h

end Calendar
