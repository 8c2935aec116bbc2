import Mathlib.Algebra.Order.Floor.Div
import Turnstile.Proofs.Refill

/-!
# The seconds that a client is told

A check tells its client two times in whole seconds: the instant at which the
running interval will be over, and, where it refuses, how long that still takes.
The instant is rounded down and the wait is rounded up; both are read off here
once in unbounded numbers.

The instant depends on the last refill alone, and a later refill never brings it
forward.  The wait is never longer than an interval.
-/

namespace Turnstile
namespace Bucket

/-! ## The wait -/

/-- Milliseconds in seconds, a begun second counted as a whole one. -/
theorem toNat_seconds (millis : UInt64) :
    (millis / 1000 + if millis % 1000 = 0 then 0 else 1).toNat =
      (millis.toNat + 999) / 1000 := by
  have small := millis.toNat_lt
  split
  all_goals
    next whole =>
      rw [← UInt64.toNat_inj] at whole
      simp at whole ⊢
      omega

/-- A wait is at least one second. -/
theorem toNat_seconds_max_one (millis : UInt64) :
    (max (millis / 1000 + if millis % 1000 = 0 then 0 else 1) 1).toNat =
      max ((millis.toNat + 999) / 1000) 1 := by
  have rounded := toNat_seconds millis
  generalize (millis / 1000 + if millis % 1000 = 0 then 0 else 1) = seconds
    at rounded ⊢
  change (if seconds ≤ 1 then 1 else seconds).toNat = _
  split
  · next least =>
      rw [UInt64.le_iff_toNat_le, UInt64.toNat_one] at least
      rw [UInt64.toNat_one]
      omega
  · next more =>
      rw [UInt64.le_iff_toNat_le, UInt64.toNat_one] at more
      omega

theorem elapsed_nonneg (bucket : Bucket) (now : Int64) :
    0 ≤ (bucket.elapsed now).toInt := by
  rw [elapsed, Saturating.toInt_max_zero]
  exact Int.le_max_right ..

/-- What is left of an interval is no longer than a signed word can tell. -/
theorem toInt_interval_sub
    (policy : Policy)
    {elapsed : Int64}
    (forward : 0 ≤ elapsed.toInt) :
    (policy.interval - elapsed).toInt =
      policy.intervalMs.toNat - elapsed.toInt := by
  have bound := policy.intervalMs_lt
  have latest := elapsed.toInt_lt
  rw [Int64.toInt_sub, Policy.toInt_interval]
  apply Int.bmod_eq_of_le <;> omega

/-- The seconds to wait are the milliseconds left of the interval, rounded up, and
at least one. -/
theorem toNat_retryAfterSeconds
    (policy : Policy)
    {elapsed : Int64}
    (forward : 0 ≤ elapsed.toInt) :
    (retryAfterSeconds policy elapsed).toNat =
      max (((policy.intervalMs.toNat - elapsed.toInt).toNat + 999) / 1000) 1 := by
  have left : (max (policy.interval - elapsed) 0).toInt =
      max (policy.intervalMs.toNat - elapsed.toInt) 0 := by
    rw [Saturating.toInt_max_zero, toInt_interval_sub policy forward]
  have millis : (max (policy.interval - elapsed) 0).toUInt64.toNat =
      (policy.intervalMs.toNat - elapsed.toInt).toNat := by
    rw [Saturating.toNat_toUInt64 (by omega), left]
    omega
  rw [retryAfterSeconds, toNat_seconds_max_one, millis]

/-- A refused check tells the wait from the time since the last refill. -/
theorem retryAfterSeconds_take
    {policy : Policy}
    {bucket : Bucket}
    {now : Int64}
    (refused : (bucket.take policy now).2.isAllowed = false) :
    (bucket.take policy now).2.retryAfterSeconds =
      retryAfterSeconds policy (bucket.elapsed now) := by
  rw [take] at refused ⊢
  split
  · next positive =>
      rw [if_pos positive] at refused
      cases refused
  · rfl

/-- The wait is one second at least and never longer than an interval. -/
theorem retryAfterSeconds_take_bounds
    {policy : Policy}
    {bucket : Bucket}
    {now : Int64}
    (refused : (bucket.take policy now).2.isAllowed = false) :
    1 ≤ (bucket.take policy now).2.retryAfterSeconds.toNat ∧
      (bucket.take policy now).2.retryAfterSeconds.toNat ≤
        policy.intervalMs.toNat ⌈/⌉ 1000 := by
  have positive := policy.intervalMs_pos
  have forward := elapsed_nonneg bucket now
  rw [retryAfterSeconds_take refused, toNat_retryAfterSeconds policy forward,
    Nat.ceilDiv_eq_add_pred_div]
  omega

/-! ## The instant -/

/-- The second told is that of the instant one interval after the last refill, held
at the end of the time line and at its epoch. -/
theorem toNat_resetSeconds (policy : Policy) (bucket : Bucket) :
    (bucket.resetSeconds policy).toNat =
      (max 0 (min (bucket.lastRefillMs.toInt + policy.intervalMs.toNat)
        0x7FFF_FFFF_FFFF_FFFF)).toNat / 1000 := by
  have positive := policy.intervalMs_pos
  have earliest := bucket.lastRefillMs.le_toInt
  have due : (Saturating.shift bucket.lastRefillMs policy.interval).toInt =
      min (bucket.lastRefillMs.toInt + policy.intervalMs.toNat)
        0x7FFF_FFFF_FFFF_FFFF := by
    rw [Saturating.toInt_shift, Policy.toInt_interval]
    omega
  have seconds :
      (Saturating.shift bucket.lastRefillMs policy.interval / 1000).toInt =
        (min (bucket.lastRefillMs.toInt + policy.intervalMs.toNat)
          0x7FFF_FFFF_FFFF_FFFF).tdiv 1000 := by
    rw [Int64.toInt_div_of_ne_right _ _ (by decide), due]
    rfl
  have whole (instant : Int) :
      (max 0 instant).toNat / 1000 = (instant.tdiv 1000).toNat := by grind
  dsimp only [resetSeconds]
  rw [whole, ← seconds]
  split
  · next before =>
      rw [Int64.lt_iff_toInt_lt, Int64.toInt_zero] at before
      rw [UInt64.toNat_zero]
      omega
  · next since =>
      rw [Int64.lt_iff_toInt_lt, Int64.toInt_zero] at since
      exact Saturating.toNat_toUInt64 (Int.not_lt.1 since)

/-- A later refill does not bring the instant forward. -/
theorem resetSeconds_mono
    (policy : Policy)
    {first second : Bucket}
    (ordered : first.lastRefillMs.toInt ≤ second.lastRefillMs.toInt) :
    first.resetSeconds policy ≤ second.resetSeconds policy := by
  rw [UInt64.le_iff_toNat_le, toNat_resetSeconds, toNat_resetSeconds]
  omega

/-- What a check tells is that of the bucket it leaves. -/
theorem resetSeconds_take (policy : Policy) (bucket : Bucket) (now : Int64) :
    (bucket.take policy now).2.resetSeconds =
      (bucket.take policy now).1.resetSeconds policy := by
  rw [take]
  split <;> rfl

end Bucket
end Turnstile
