import Mathlib.Algebra.Order.Group.Nat
import Turnstile.Bucket

/-!
# Refills in unbounded numbers

What a refill, a check and the eviction test come to once words are put aside.
A bucket is worth the tokens it holds plus the tokens of the whole intervals
since its last refill, up to the capacity; a check takes one of them; and the
eviction test asks whether the bucket is worth its whole capacity.

Everything here speaks of one bucket and of instants whose distance from its
last refill fits a signed word.
-/

namespace Turnstile
namespace Policy

/-- The tokens that a number of milliseconds earns, in unbounded numbers. -/
def earned (policy : Policy) (span : Int) : Nat :=
  span.toNat / policy.intervalMs.toNat * policy.refillRate.toNat

/-- A whole interval earns the refill rate at least. -/
theorem refillRate_le_earned
    (policy : Policy)
    {span : Int}
    (whole : policy.intervalMs.toNat ≤ span) :
    policy.refillRate.toNat ≤ policy.earned span := by
  have positive := policy.intervalMs_pos
  have reached : policy.intervalMs.toNat ≤ span.toNat := by omega
  exact Nat.le_mul_of_pos_left _ (Nat.div_pos reached positive)

theorem earned_mono
    (policy : Policy)
    {shorter longer : Int}
    (le : shorter ≤ longer) : policy.earned shorter ≤ policy.earned longer := by
  apply Nat.mul_le_mul_right
  apply Nat.div_le_div_right
  omega

/-- Two spans earn no more apart than in one. -/
theorem earned_add_le
    (policy : Policy)
    {first second : Int}
    (firstForward : 0 ≤ first)
    (secondForward : 0 ≤ second) :
    policy.earned first + policy.earned second ≤
      policy.earned (first + second) := by
  rw [earned, earned, earned, ← Nat.add_mul,
    Int.toNat_add firstForward secondForward]
  apply Nat.mul_le_mul_right
  exact Nat.div_add_div_le_add_div

end Policy

namespace Bucket

theorem interval_le_elapsed_iff
    (policy : Policy)
    {bucket : Bucket}
    {now : Int64}
    (reaches : bucket.Reaches now) :
    policy.interval ≤ bucket.elapsed now ↔
      (policy.intervalMs.toNat : Int) ≤
        now.toInt - bucket.lastRefillMs.toInt := by
  have positive := policy.intervalMs_pos
  rw [Int64.le_iff_toInt_le, Policy.toInt_interval, toInt_elapsed reaches]
  omega

/-- Within an interval of the last refill nothing happens. -/
theorem refill_of_lt
    (policy : Policy)
    {bucket : Bucket}
    {now : Int64}
    (reaches : bucket.Reaches now)
    (early : now.toInt - bucket.lastRefillMs.toInt < policy.intervalMs.toNat) :
    bucket.refill policy now = bucket := by
  have notDue : ¬policy.interval ≤ bucket.elapsed now := by
    rw [interval_le_elapsed_iff policy reaches]
    omega
  rw [refill]
  exact if_neg notDue

/-- A refill after a whole interval is made at the present instant. -/
theorem lastRefillMs_refill_of_le
    (policy : Policy)
    {bucket : Bucket}
    {now : Int64}
    (reaches : bucket.Reaches now)
    (due : (policy.intervalMs.toNat : Int) ≤
      now.toInt - bucket.lastRefillMs.toInt) :
    (bucket.refill policy now).lastRefillMs = now := by
  rw [refill, if_pos ((interval_le_elapsed_iff policy reaches).2 due)]

/-- Whatever the clock reads, a refill is made at that instant or not at all. -/
theorem lastRefillMs_refill_or_eq
    (policy : Policy)
    (bucket : Bucket)
    (now : Int64) :
    (bucket.refill policy now).lastRefillMs = now ∨
      bucket.refill policy now = bucket := by
  rw [refill]
  split
  · exact Or.inl rfl
  · exact Or.inr rfl

theorem lastRefillMs_refill_le
    (policy : Policy)
    {bucket : Bucket}
    {now : Int64}
    (ordered : bucket.lastRefillMs.toInt ≤ now.toInt) :
    (bucket.refill policy now).lastRefillMs.toInt ≤ now.toInt := by
  obtain stamped | same := lastRefillMs_refill_or_eq policy bucket now
  · rw [stamped]
  · rw [same]
    exact ordered

/-- After a refill less than an interval has passed since the last one. -/
theorem sub_lastRefillMs_refill_lt
    (policy : Policy)
    {bucket : Bucket}
    {now : Int64}
    (reaches : bucket.Reaches now) :
    now.toInt - (bucket.refill policy now).lastRefillMs.toInt <
      policy.intervalMs.toNat := by
  have positive := policy.intervalMs_pos
  by_cases due : (policy.intervalMs.toNat : Int) ≤
      now.toInt - bucket.lastRefillMs.toInt
  · rw [lastRefillMs_refill_of_le policy reaches due]
    omega
  · rw [refill_of_lt policy reaches (by omega)]
    omega

/-- The tokens that a check at an instant finds in the bucket. -/
def available (policy : Policy) (now : Int64) (bucket : Bucket) : Nat :=
  (bucket.refill policy now).tokens.toNat

theorem available_eq
    (policy : Policy)
    {bucket : Bucket}
    {now : Int64}
    (reaches : bucket.Reaches now)
    (bounded : bucket.tokens.toNat ≤ policy.capacity.toNat) :
    bucket.available policy now =
      min policy.capacity.toNat
        (bucket.tokens.toNat +
          policy.earned (now.toInt - bucket.lastRefillMs.toInt)) :=
  toNat_tokens_refill policy reaches bounded

theorem available_le
    (policy : Policy)
    {bucket : Bucket}
    (bounded : bucket.tokens.toNat ≤ policy.capacity.toNat)
    (now : Int64) :
    bucket.available policy now ≤ policy.capacity.toNat := by
  rw [available, refill]
  split
  · have small := policy.capacity.toNat_lt
    simp only [UInt64.toNat_toUInt32]
    rw [Std.min_eq_if]
    split
    · next comparison =>
        rw [UInt64.le_iff_toNat_le, UInt32.toNat_toUInt64] at comparison
        omega
    · rw [UInt32.toNat_toUInt64]
      omega
  · exact bounded

/-- A refill leaves nothing to be refilled at the same instant. -/
theorem available_of_sub_lt
    (policy : Policy)
    {bucket : Bucket}
    {now : Int64}
    (reaches : bucket.Reaches now)
    (early : now.toInt - bucket.lastRefillMs.toInt < policy.intervalMs.toNat) :
    bucket.available policy now = bucket.tokens.toNat := by
  rw [available, refill_of_lt policy reaches early]

/-! ## Full buckets -/

theorem reaches_self
    {bucket : Bucket}
    {now : Int64}
    (refilled : bucket.lastRefillMs = now) : bucket.Reaches now := by
  subst refilled
  constructor <;> omega

/-- A bucket that is full and fresh stays so. -/
theorem refill_full (policy : Policy) (now : Int64) :
    (full policy.capacity now).refill policy now =
      full policy.capacity now := by
  have positive := policy.intervalMs_pos
  apply refill_of_lt policy (reaches_self rfl)
  change now.toInt - now.toInt < _
  omega

@[simp] theorem available_full (policy : Policy) (now : Int64) :
    (full policy.capacity now).available policy now =
      policy.capacity.toNat := by
  rw [available, refill_full]
  rfl

theorem isReplenished_iff
    (policy : Policy)
    {bucket : Bucket}
    {now : Int64}
    (reaches : bucket.Reaches now) :
    bucket.isReplenished policy now = true ↔
      policy.capacity.toNat ≤
        bucket.tokens.toNat +
          policy.earned (now.toInt - bucket.lastRefillMs.toInt) := by
  have small := policy.capacity.toNat_lt
  have difference := toInt_sub_lastRefillMs reaches
  rw [isReplenished, decide_eq_true_iff, UInt64.le_iff_toNat_le,
    Saturating.toNat_add, Policy.toNat_tokensFor, difference,
    UInt32.toNat_toUInt64, UInt32.toNat_toUInt64]
  change _ ↔ _ ≤ _ + _ / _ * _
  omega

/-- The eviction test asks whether a check would find the capacity. -/
theorem isReplenished_iff_available
    (policy : Policy)
    {bucket : Bucket}
    {now : Int64}
    (reaches : bucket.Reaches now)
    (bounded : bucket.tokens.toNat ≤ policy.capacity.toNat) :
    bucket.isReplenished policy now = true ↔
      bucket.available policy now = policy.capacity.toNat := by
  rw [isReplenished_iff policy reaches, available_eq policy reaches bounded]
  omega

/-- A replenished bucket stays replenished while the clock moves on. -/
theorem isReplenished_mono
    (policy : Policy)
    {bucket : Bucket}
    {now later : Int64}
    (reaches : bucket.Reaches now)
    (reachesLater : bucket.Reaches later)
    (ordered : now.toInt ≤ later.toInt)
    (replenished : bucket.isReplenished policy now = true) :
    bucket.isReplenished policy later = true := by
  rw [isReplenished_iff policy reaches] at replenished
  rw [isReplenished_iff policy reachesLater]
  have more := policy.earned_mono
    (Int.sub_le_sub_right ordered bucket.lastRefillMs.toInt)
  omega

/-- A replenished bucket that had spent a token has a whole interval behind it,
so that a refill makes it the same as a new one. -/
theorem refill_eq_full
    (policy : Policy)
    {bucket : Bucket}
    {now : Int64}
    (reaches : bucket.Reaches now)
    (spent : bucket.tokens.toNat < policy.capacity.toNat)
    (replenished : bucket.isReplenished policy now = true) :
    bucket.refill policy now = full policy.capacity now := by
  have whole := (isReplenished_iff_available policy reaches spent.le).1 replenished
  have due : (policy.intervalMs.toNat : Int) ≤
      now.toInt - bucket.lastRefillMs.toInt := by
    by_contra early
    rw [available_of_sub_lt policy reaches (by omega)] at whole
    omega
  have tokens : (bucket.refill policy now).tokens = policy.capacity :=
    UInt32.toNat_inj.1 whole
  have stamp := lastRefillMs_refill_of_le policy reaches due
  exact congrArg₂ mk tokens stamp

/-! ## Checks -/

/-- A check decides by the tokens it finds. -/
theorem isAllowed_take (policy : Policy) (bucket : Bucket) (now : Int64) :
    (bucket.take policy now).2.isAllowed =
      decide (0 < bucket.available policy now) := by
  rw [take, available]
  split
  · next positive =>
      rw [UInt32.lt_iff_toNat_lt] at positive
      exact (decide_eq_true positive).symm
  · next empty =>
      rw [UInt32.lt_iff_toNat_lt] at empty
      exact (decide_eq_false empty).symm

/-- A check leaves one token less than it finds, if it finds any. -/
theorem toNat_tokens_take (policy : Policy) (bucket : Bucket) (now : Int64) :
    (bucket.take policy now).1.tokens.toNat =
      bucket.available policy now - 1 := by
  rw [take, available]
  split
  · next positive =>
      rw [UInt32.lt_iff_toNat_lt, UInt32.toNat_zero] at positive
      exact UInt32.toNat_sub_of_le _ _ (UInt32.le_iff_toNat_le.2 positive)
  · next empty =>
      rw [UInt32.lt_iff_toNat_lt, UInt32.toNat_zero] at empty
      dsimp only
      omega

/-- What is left after an allowed check is what the check reports. -/
theorem remaining_take (policy : Policy) (bucket : Bucket) (now : Int64) :
    (bucket.take policy now).2.remaining =
      (bucket.take policy now).1.tokens := by
  rw [take]
  split
  · rfl
  · next empty =>
      rw [UInt32.lt_iff_toNat_lt, UInt32.toNat_zero] at empty
      apply UInt32.toNat_inj.1
      change 0 = (bucket.refill policy now).tokens.toNat
      omega

@[simp] theorem lastRefillMs_take
    (policy : Policy)
    (bucket : Bucket)
    (now : Int64) :
    (bucket.take policy now).1.lastRefillMs =
      (bucket.refill policy now).lastRefillMs := by
  rw [take]
  split <;> rfl

/-- A check stamps its own instant on the bucket or leaves the stamp there. -/
theorem lastRefillMs_take_or_eq
    (policy : Policy)
    (bucket : Bucket)
    (now : Int64) :
    (bucket.take policy now).1.lastRefillMs = now ∨
      (bucket.take policy now).1.lastRefillMs = bucket.lastRefillMs := by
  rw [lastRefillMs_take]
  obtain stamped | same := lastRefillMs_refill_or_eq policy bucket now
  · exact Or.inl stamped
  · exact Or.inr (congrArg lastRefillMs same)

theorem reaches_take
    (policy : Policy)
    {bucket : Bucket}
    {now : Int64}
    (reaches : bucket.Reaches now) :
    (bucket.take policy now).1.Reaches now := by
  obtain stamped | same := lastRefillMs_take_or_eq policy bucket now
  · exact reaches_self stamped
  · rw [Reaches, same]
    exact reaches

/-- A check leaves the bucket refilled: another one at the same instant finds the
tokens that it left. -/
theorem available_take
    (policy : Policy)
    {bucket : Bucket}
    {now : Int64}
    (reaches : bucket.Reaches now) :
    (bucket.take policy now).1.available policy now =
      bucket.available policy now - 1 := by
  have reachesLeft := reaches_take policy reaches
  have recent := sub_lastRefillMs_refill_lt policy reaches
  rw [← lastRefillMs_take] at recent
  rw [available_of_sub_lt policy reachesLeft recent, toNat_tokens_take]

/-- The tokens a check finds are the ones it grants and the ones it leaves. -/
theorem isAllowed_add_tokens_take
    (policy : Policy)
    (bucket : Bucket)
    (now : Int64) :
    (bucket.take policy now).2.isAllowed.toNat +
      (bucket.take policy now).1.tokens.toNat =
        bucket.available policy now := by
  rw [isAllowed_take, toNat_tokens_take]
  by_cases positive : 0 < bucket.available policy now
  · rw [decide_eq_true positive]
    change 1 + _ = _
    omega
  · rw [decide_eq_false positive]
    change 0 + _ = _
    omega

/-- A checked bucket is never full. -/
theorem toNat_tokens_take_lt
    (policy : Policy)
    {bucket : Bucket}
    (bounded : bucket.tokens.toNat ≤ policy.capacity.toNat)
    (now : Int64) :
    (bucket.take policy now).1.tokens.toNat < policy.capacity.toNat := by
  have positive := policy.capacity_pos
  have most := available_le policy bounded now
  rw [toNat_tokens_take]
  omega

/-- A replenished bucket that had spent a token decides like a new one. -/
theorem take_eq_take_full
    (policy : Policy)
    {bucket : Bucket}
    {now : Int64}
    (reaches : bucket.Reaches now)
    (spent : bucket.tokens.toNat < policy.capacity.toNat)
    (replenished : bucket.isReplenished policy now = true) :
    bucket.take policy now = (full policy.capacity now).take policy now := by
  have refilled := refill_eq_full policy reaches spent replenished
  have positive : (0 : UInt32) < (full policy.capacity now).tokens :=
    UInt32.lt_iff_toNat_lt.2 policy.capacity_pos
  rw [take, take, refilled, refill_full, if_pos positive, if_pos positive]

end Bucket
end Turnstile
