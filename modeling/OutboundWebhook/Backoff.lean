import OutboundWebhook.Service
import Mathlib.Algebra.Order.Ring.Int
import Mathlib.Tactic.NormNum
import Mathlib.Tactic.Positivity

/-!
# The delay before a retry

`retryDelaySeconds` doubles a base delay with every attempt and cuts it off at a maximum. It works
on 64-bit integers behind four guards: the subtraction saturates, the exponent is clamped to 62,
the shift is checked and the product saturates. None of them shows: the result is the exact
`min (base * 2 ^ (attempt - 1)) max`, for every attempt number.

## Why the guards do not show

Below an exponent of 62 nothing overflows but the product, and a product beyond `2 ^ 63` is
beyond the maximum as well, saturated or not. From 62 on the true delay has passed the maximum,
which is at most `2 ^ 62`, and so has the clamped one.
-/

namespace OutboundWebhook

/-- Saturation is invisible below a maximum that fits. -/
theorem min_saturateI64 {x m : ℤ} (hx : 0 ≤ x) (hm : m ≤ 2 ^ 62) :
    min (saturateI64 x) m = min x m := by
  norm_num at hm
  rw [saturateI64]
  omega

/-- The clamped exponent is a `u32`, and the shift by it loses no bit. -/
theorem checkedShl_clamp (n : ℤ) :
    u32TryFrom (max 0 (min 62 n)) = some (max 0 (min 62 n)).toNat ∧
      checkedShl 1 (max 0 (min 62 n)).toNat = some (2 ^ (max 0 (min 62 n)).toNat) := by
  have hclamp : 0 ≤ max 0 (min 62 n) ∧ max 0 (min 62 n) ≤ 62 := by omega
  generalize max 0 (min 62 n) = e at hclamp
  obtain ⟨hlow, hhigh⟩ := hclamp
  have hpow : (2 : ℤ) ^ e.toNat ≤ 2 ^ 62 := pow_le_pow_right₀ one_le_two (by omega)
  have hpos : (0 : ℤ) < 2 ^ e.toNat := by positivity
  norm_num at hpow
  constructor
  · rw [u32TryFrom, if_pos (by omega)]
  · rw [checkedShl, if_pos (by omega), one_mul, Int.bmod_eq_of_le (by omega) (by omega)]

/-- The code without its guards on the exponent. -/
theorem retryDelaySeconds_clamped (attempt baseSeconds maxSeconds : ℤ) :
    retryDelaySeconds attempt baseSeconds maxSeconds
      = min (saturateI64
          (baseSeconds * 2 ^ (max 0 (min 62 (saturateI64 (attempt - 1)))).toNat)) maxSeconds := by
  obtain ⟨hexponent, hshift⟩ := checkedShl_clamp (saturateI64 (attempt - 1))
  rw [retryDelaySeconds, hexponent, Option.getD_some, hshift, Option.getD_some]

/-- From the exponent 62 on the delay has reached the maximum. -/
theorem le_base_mul_pow {baseSeconds maxSeconds : ℤ} (hbase : 1 ≤ baseSeconds)
    (hmax : maxSeconds ≤ 2 ^ 62) {n : ℕ} (hn : 62 ≤ n) :
    maxSeconds ≤ baseSeconds * 2 ^ n :=
  calc maxSeconds ≤ 2 ^ 62 := hmax
    _ ≤ 2 ^ n := pow_le_pow_right₀ one_le_two hn
    _ ≤ baseSeconds * 2 ^ n := le_mul_of_one_le_left (by positivity) hbase

/-- **The guards do not show.** -/
theorem retryDelaySeconds_eq {attempt baseSeconds maxSeconds : ℤ}
    (hattempt : 1 ≤ attempt ∧ attempt ≤ 9223372036854775807) (hbase : 1 ≤ baseSeconds)
    (hmax : maxSeconds ≤ 2 ^ 62) :
    retryDelaySeconds attempt baseSeconds maxSeconds
      = min (baseSeconds * 2 ^ (attempt - 1).toNat) maxSeconds := by
  have hsaturate : saturateI64 (attempt - 1) = attempt - 1 := by
    rw [saturateI64]
    omega
  rw [retryDelaySeconds_clamped, hsaturate, min_saturateI64 (by positivity) hmax]
  by_cases hsmall : attempt - 1 ≤ 62
  · have hexponent : (max 0 (min 62 (attempt - 1))).toNat = (attempt - 1).toNat := by omega
    rw [hexponent]
  · have hexponent : (max 0 (min 62 (attempt - 1))).toNat = 62 := by omega
    rw [hexponent, min_eq_right (le_base_mul_pow hbase hmax le_rfl),
      min_eq_right (le_base_mul_pow hbase hmax (by omega))]

/-- Under a valid configuration. -/
theorem ValidConfig.retryDelaySeconds_eq {P : Platform} {config : OutboundWebhookConfig}
    (h : ValidConfig P config) {attempt : ℤ} (hattempt : 1 ≤ attempt ∧ attempt ≤ 100) :
    retryDelaySeconds attempt config.retryBaseSeconds config.retryMaxSeconds
      = min (config.retryBaseSeconds * 2 ^ (attempt - 1).toNat) config.retryMaxSeconds :=
  OutboundWebhook.retryDelaySeconds_eq ⟨hattempt.1, hattempt.2.trans (by decide)⟩
    h.retryBaseSeconds (h.retryMaxSeconds.2.trans (by decide))

/-- A time without a finer part loses nothing when it is bound. -/
theorem toTimestamptz_databaseTimestampNow (now : OffsetDateTime) :
    now.unixTimestampNanos / 1000 * 1000 = 1000 * toTimestamptz (databaseTimestampNow now) := by
  obtain ⟨-, -, hexact⟩ := toTimestamptz_bounds (databaseTimestampNow now)
  exact hexact.mpr (Int.mul_emod_left _ _)

/-- The time of the next attempt, bound to its column. -/
theorem toTimestamptz_checkedAdd {now next : OffsetDateTime} {delay : ℤ}
    (h : (databaseTimestampNow now).checkedAdd delay = some next) :
    toTimestamptz next = toTimestamptz (databaseTimestampNow now) + seconds delay := by
  have hsum : next.unixTimestampNanos = now.unixTimestampNanos / 1000 * 1000 + 1000000000 * delay :=
    OffsetDateTime.checkedAdd_eq_some_iff.mp h
  have hnow := toTimestamptz_databaseTimestampNow now
  have hnext : next.unixTimestampNanos = 1000 * toTimestamptz next :=
    (toTimestamptz_bounds next).2.2.mpr (by omega)
  show (_ : ℤ) = toTimestamptz (databaseTimestampNow now) + delay * 1000000
  omega

/-- **Backoff arithmetic.** -/
theorem backoff_exact {attempt baseSeconds maxSeconds : ℤ}
    (hattempt : 1 ≤ attempt) (hfits : attempt ≤ 9223372036854775807) (hbase : 1 ≤ baseSeconds)
    (hmax : baseSeconds ≤ maxSeconds) (hbound : maxSeconds ≤ 2 ^ 62) :
    retryDelaySeconds attempt baseSeconds maxSeconds
        = min (baseSeconds * 2 ^ (attempt - 1).toNat) maxSeconds ∧
      baseSeconds ≤ retryDelaySeconds attempt baseSeconds maxSeconds ∧
      retryDelaySeconds attempt baseSeconds maxSeconds ≤ maxSeconds ∧
      ∀ later, attempt ≤ later → later ≤ 9223372036854775807 →
        retryDelaySeconds attempt baseSeconds maxSeconds
          ≤ retryDelaySeconds later baseSeconds maxSeconds := by
  have heq : ∀ n, 1 ≤ n → n ≤ 9223372036854775807 →
      retryDelaySeconds n baseSeconds maxSeconds
        = min (baseSeconds * 2 ^ (n - 1).toNat) maxSeconds :=
    fun n hn hn' => retryDelaySeconds_eq ⟨hn, hn'⟩ hbase hbound
  have hdouble : ∀ {n m : ℕ}, n ≤ m → baseSeconds * 2 ^ n ≤ baseSeconds * 2 ^ m := by
    intro n m hnm
    exact mul_le_mul_of_nonneg_left (pow_le_pow_right₀ one_le_two hnm) (by omega)
  refine ⟨heq _ hattempt hfits, ?_, ?_, ?_⟩
  · rw [heq _ hattempt hfits]
    have hone := hdouble (Nat.zero_le (attempt - 1).toNat)
    rw [pow_zero, mul_one] at hone
    exact le_min hone hmax
  · rw [heq _ hattempt hfits]
    exact min_le_right _ _
  · intro later hlater hlater'
    rw [heq _ hattempt hfits, heq _ (hattempt.trans hlater) hlater']
    exact min_le_min_right _ (hdouble (by omega))

/-- The largest maximum and an attempt whose exponent is clamped. -/
theorem backoff_exact_clamped :
    retryDelaySeconds 100 5 4611686018427387904 = 4611686018427387904 := by
  obtain ⟨hexact, -⟩ := @backoff_exact 100 5 4611686018427387904 (by decide) (by decide)
    (by decide) (by decide) (by decide)
  rw [hexact]
  decide

end OutboundWebhook
