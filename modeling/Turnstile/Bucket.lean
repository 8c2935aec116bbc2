import Turnstile.Decision
import Turnstile.Policy

/-!
# Token buckets

One client's budget: the tokens it has left and the instant at which tokens
were last added.  A check first refills the bucket by the whole intervals that
have passed and then takes one token if there is one.

A clock that reads earlier than the last refill counts as no time passed: no
tokens are added, none are taken away, and the refill instant stays.

As long as the time since the last refill fits a signed word, a refill computes
the exact number of tokens, whatever its fixed-width steps do on the way.
-/

namespace Turnstile

/-- The token state of one client. -/
structure Bucket where
  tokens : UInt32
  /-- The instant, in epoch milliseconds, at which tokens were last added. -/
  lastRefillMs : Int64
deriving DecidableEq, Repr, Inhabited

namespace Bucket

/-- A full bucket first seen at `now`. -/
def full (capacity : UInt32) (now : Int64) : Bucket where
  tokens := capacity
  lastRefillMs := now

/-- The time since the last refill, never negative. -/
def elapsed (bucket : Bucket) (now : Int64) : Int64 :=
  max (now - bucket.lastRefillMs) 0

/-- Adds the tokens of the whole intervals since the last refill, up to the
capacity.  A partial interval leaves the bucket as it is. -/
def refill (policy : Policy) (bucket : Bucket) (now : Int64) : Bucket :=
  let elapsed := bucket.elapsed now
  if policy.interval ≤ elapsed then
    let tokens := Saturating.add bucket.tokens.toUInt64 (policy.tokensFor elapsed)
    { tokens := (min tokens policy.capacity.toUInt64).toUInt32
      lastRefillMs := now }
  else bucket

/-- The Unix second at which the current interval completes, and 0 where that
lies before the epoch. -/
def resetSeconds (policy : Policy) (bucket : Bucket) : UInt64 :=
  let reset := Saturating.shift bucket.lastRefillMs policy.interval / 1000
  if reset < 0 then 0 else reset.toUInt64

/-- Whole seconds until the current interval completes, and at least one. -/
def retryAfterSeconds (policy : Policy) (elapsed : Int64) : UInt64 :=
  let wait := (max (policy.interval - elapsed) 0).toUInt64
  max (wait / 1000 + (if wait % 1000 = 0 then 0 else 1)) 1

/-- One check at `now`: refill, then take a token or refuse. -/
def take (policy : Policy) (bucket : Bucket) (now : Int64) : Bucket × Decision :=
  let refilled := bucket.refill policy now
  let reset := refilled.resetSeconds policy
  if 0 < refilled.tokens then
    let remaining := refilled.tokens - 1
    ({ refilled with tokens := remaining },
      .allowed policy.capacity remaining reset)
  else
    (refilled,
      .denied policy.capacity reset
        (retryAfterSeconds policy (bucket.elapsed now)))

/-- Whether a refill at `now` would fill the bucket to its capacity. -/
def isReplenished (policy : Policy) (now : Int64) (bucket : Bucket) : Bool :=
  let earned := policy.tokensFor (now - bucket.lastRefillMs)
  policy.capacity.toUInt64 ≤ Saturating.add bucket.tokens.toUInt64 earned

/-- Whether the time from the last refill to an instant fits a signed word. -/
def Reaches (bucket : Bucket) (now : Int64) : Prop :=
  -0x8000_0000_0000_0000 ≤ now.toInt - bucket.lastRefillMs.toInt ∧
    now.toInt - bucket.lastRefillMs.toInt < 0x8000_0000_0000_0000

theorem toInt_sub_lastRefillMs
    {bucket : Bucket}
    {now : Int64}
    (reaches : bucket.Reaches now) :
    (now - bucket.lastRefillMs).toInt =
      now.toInt - bucket.lastRefillMs.toInt := by
  obtain ⟨lower, upper⟩ := reaches
  rw [Int64.toInt_sub]
  apply Int.bmod_eq_of_le <;> omega

/-- The elapsed time is the exact difference, or nothing if the clock ran back. -/
theorem toInt_elapsed
    {bucket : Bucket}
    {now : Int64}
    (reaches : bucket.Reaches now) :
    (bucket.elapsed now).toInt =
      max (now.toInt - bucket.lastRefillMs.toInt) 0 := by
  rw [elapsed, Saturating.toInt_max_zero, toInt_sub_lastRefillMs reaches]

/-- A refill adds what the whole intervals since the last one have earned, up to
the capacity. -/
theorem toNat_tokens_refill
    (policy : Policy)
    {bucket : Bucket}
    {now : Int64}
    (reaches : bucket.Reaches now)
    (bounded : bucket.tokens.toNat ≤ policy.capacity.toNat) :
    (bucket.refill policy now).tokens.toNat =
      min policy.capacity.toNat
        (bucket.tokens.toNat +
          (now.toInt - bucket.lastRefillMs.toInt).toNat / policy.intervalMs.toNat
            * policy.refillRate.toNat) := by
  have elapsed := toInt_elapsed reaches
  have span : (bucket.elapsed now).toInt.toNat =
      (now.toInt - bucket.lastRefillMs.toInt).toNat := by
    omega
  rw [refill]
  split
  · have small := policy.capacity.toNat_lt
    simp only [UInt64.toNat_toUInt32]
    rw [Std.min_eq_if]
    split
    all_goals
      next comparison =>
        rw [UInt64.le_iff_toNat_le, Saturating.toNat_add, Policy.toNat_tokensFor,
          span] at comparison
        simp [Saturating.toNat_add, Policy.toNat_tokensFor, span] at *
        omega
  · next partly =>
      rw [Int64.le_iff_toInt_le, Policy.toInt_interval] at partly
      have positive := policy.intervalMs_pos
      have short : (now.toInt - bucket.lastRefillMs.toInt).toNat <
          policy.intervalMs.toNat := by
        omega
      rw [Nat.div_eq_of_lt short]
      omega

end Bucket
end Turnstile
