import Turnstile.Saturating
import Turnstile.Text.Numeral

/-!
# Bucket policies

A policy fixes the shape of every bucket a limiter keeps: how many tokens it
holds, how many it regains, and how long one refill interval lasts.  A policy
is only ever built through `Policy.make`, so its bounds are fields of the type.
-/

namespace Turnstile

/-- Why three numbers do not form a policy. -/
inductive PolicyError where
  | zeroCapacity
  | zeroRefillRate
  | zeroRefillInterval
  | refillIntervalTooLarge (intervalMs : UInt64)
deriving DecidableEq, Repr

namespace PolicyError

/-- The text reported for a rejected policy. -/
def message : PolicyError → String
  | zeroCapacity =>
      "bucket capacity must be greater than 0; disable rate limiting instead"
  | zeroRefillRate => "refill rate must be greater than 0"
  | zeroRefillInterval => "refill interval must be greater than 0 ms"
  | refillIntervalTooLarge intervalMs =>
      "refill interval of " ++ Text.decimalText intervalMs.toNat
        ++ " ms is too large"

end PolicyError

/-- A bucket holds at most `capacity` tokens and regains `refillRate` tokens for
each whole interval of `intervalMs` milliseconds.  The interval fits a signed
64-bit word, because elapsed times are signed. -/
structure Policy where
  capacity : UInt32
  refillRate : UInt32
  intervalMs : UInt64
  capacity_pos : 0 < capacity.toNat
  refillRate_pos : 0 < refillRate.toNat
  intervalMs_pos : 0 < intervalMs.toNat
  intervalMs_lt : intervalMs.toNat < 0x8000_0000_0000_0000
deriving DecidableEq

namespace Policy

/-- Builds a policy, or names the first rule that the three numbers break. -/
def make
    (capacity refillRate : UInt32)
    (intervalMs : UInt64) : Except PolicyError Policy :=
  if capacity_zero : capacity.toNat = 0 then .error .zeroCapacity
  else if rate_zero : refillRate.toNat = 0 then .error .zeroRefillRate
  else if interval_zero : intervalMs.toNat = 0 then .error .zeroRefillInterval
  else if interval_large : 0x8000_0000_0000_0000 ≤ intervalMs.toNat then
    .error (.refillIntervalTooLarge intervalMs)
  else
    .ok {
      capacity
      refillRate
      intervalMs
      capacity_pos := Nat.pos_of_ne_zero capacity_zero
      refillRate_pos := Nat.pos_of_ne_zero rate_zero
      intervalMs_pos := Nat.pos_of_ne_zero interval_zero
      intervalMs_lt := Nat.lt_of_not_le interval_large }

/-- The refill interval as a signed duration. -/
def interval (policy : Policy) : Int64 :=
  policy.intervalMs.toInt64

/-- Tokens earned over an elapsed time.  Only whole intervals count, and a time
that did not advance earns nothing. -/
def tokensFor (policy : Policy) (elapsedMs : Int64) : UInt64 :=
  if elapsedMs ≤ 0 then 0
  else Saturating.mul (elapsedMs.toUInt64 / policy.intervalMs)
    policy.refillRate.toUInt64

/-- As a signed duration the interval keeps its value. -/
theorem toInt_interval (policy : Policy) :
    policy.interval.toInt = policy.intervalMs.toNat := by
  rw [interval, ← UInt64.ofNat_toNat (x := policy.intervalMs),
    UInt64.toInt64_ofNat', Int64.toInt_ofNat_of_lt policy.intervalMs_lt,
    UInt64.ofNat_toNat]

/-- The tokens earned are the rate times the number of whole intervals, held at
the largest count. -/
theorem toNat_tokensFor (policy : Policy) (elapsedMs : Int64) :
    (policy.tokensFor elapsedMs).toNat =
      min (elapsedMs.toInt.toNat / policy.intervalMs.toNat
        * policy.refillRate.toNat) 0xFFFF_FFFF_FFFF_FFFF := by
  have zero : (0 : Int64).toInt = 0 := rfl
  rw [tokensFor]
  split
  · next still =>
      rw [Int64.le_iff_toInt_le, zero] at still
      simp [Int.toNat_of_nonpos still]
  · next moved =>
      rw [Int64.le_iff_toInt_le, zero] at moved
      rw [Saturating.toNat_mul, UInt64.toNat_div,
        Saturating.toNat_toUInt64 (by omega), UInt32.toNat_toUInt64]

/-- A policy is accepted exactly when all three numbers are positive and the
interval fits a signed word. -/
theorem make_isOk_iff
    (capacity refillRate : UInt32)
    (intervalMs : UInt64) :
    (∃ policy, make capacity refillRate intervalMs = .ok policy) ↔
      0 < capacity.toNat ∧ 0 < refillRate.toNat ∧
        0 < intervalMs.toNat ∧ intervalMs.toNat < 0x8000_0000_0000_0000 := by
  unfold make
  split
  · simp_all
  split
  · simp_all
  split
  · simp_all
  split
  · simp_all
  · simp
    omega

/-- An accepted policy holds the numbers it was made from. -/
theorem make_eq_ok
    {capacity refillRate : UInt32}
    {intervalMs : UInt64}
    {policy : Policy}
    (made : make capacity refillRate intervalMs = .ok policy) :
    policy.capacity = capacity ∧ policy.refillRate = refillRate ∧
      policy.intervalMs = intervalMs := by
  unfold make at made
  split at made
  · cases made
  split at made
  · cases made
  split at made
  · cases made
  split at made
  · cases made
  · cases made
    exact ⟨rfl, rfl, rfl⟩

/-- A policy is made from its own numbers. -/
theorem make_self (policy : Policy) :
    make policy.capacity policy.refillRate policy.intervalMs = .ok policy := by
  obtain ⟨other, made⟩ := (make_isOk_iff ..).2 ⟨policy.capacity_pos,
    policy.refillRate_pos, policy.intervalMs_pos, policy.intervalMs_lt⟩
  rw [made]
  obtain ⟨capacity, rate, interval⟩ := make_eq_ok made
  cases other
  cases policy
  simp_all

/-- Three positive numbers are refused for a large interval alone. -/
theorem make_eq_error_of_ne_zero
    {capacity refillRate : UInt32}
    {intervalMs : UInt64}
    {cause : PolicyError}
    (refused : make capacity refillRate intervalMs = .error cause)
    (capacityNonzero : capacity ≠ 0)
    (rateNonzero : refillRate ≠ 0)
    (intervalNonzero : intervalMs ≠ 0) :
    0x8000_0000_0000_0000 ≤ intervalMs.toNat ∧
      cause = .refillIntervalTooLarge intervalMs := by
  rw [make] at refused
  split at refused
  · next zero => exact absurd (UInt32.toNat_inj.1 zero) capacityNonzero
  split at refused
  · next zero => exact absurd (UInt32.toNat_inj.1 zero) rateNonzero
  split at refused
  · next zero => exact absurd (UInt64.toNat_inj.1 zero) intervalNonzero
  split at refused
  · next large => exact ⟨large, (Except.error.inj refused).symm⟩
  · cases refused

end Policy
end Turnstile
