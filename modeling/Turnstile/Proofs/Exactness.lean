import Turnstile.Checked
import Turnstile.Proofs.Seconds

/-!
# Exact words

The computations of a bucket are written down a second time in checked arithmetic,
in which a step gives nothing where its word does not hold the exact result.  As
long as the time since the last refill fits a signed word, the checked
computations go through and come to what the plain ones come to: no difference
leaves its word, no change of word alters a number, and nothing is divided by
zero.

Sums and products that are held at the end of their word are no such steps.  They
do lose value, but never any that the capacity would have let through.
-/

namespace Turnstile

namespace Policy

/-- The refill interval as a signed duration, checked. -/
def interval? (policy : Policy) : Option Int64 :=
  Checked.signed? policy.intervalMs.toNat

/-- Tokens earned over an elapsed time, checked. -/
def tokensFor? (policy : Policy) (elapsedMs : Int64) : Option UInt64 :=
  if elapsedMs ≤ 0 then some 0
  else do
    let millis ← Checked.unsigned? elapsedMs.toInt
    let intervals ← Checked.div? millis policy.intervalMs
    return Saturating.mul intervals policy.refillRate.toUInt64

theorem interval?_eq_some (policy : Policy) :
    policy.interval? = some policy.interval :=
  Checked.signed?_eq_some_iff.2 policy.toInt_interval

theorem tokensFor?_eq_some (policy : Policy) (elapsedMs : Int64) :
    policy.tokensFor? elapsedMs = some (policy.tokensFor elapsedMs) := by
  have positive := policy.intervalMs_pos
  rw [tokensFor?, tokensFor]
  split
  · rfl
  · next moved =>
      rw [Int64.le_iff_toInt_le, Int64.toInt_zero] at moved
      have millis := Checked.unsigned?_toInt (Int.le_of_lt (Int.not_le.1 moved))
      have intervals : Checked.div? elapsedMs.toUInt64 policy.intervalMs =
          some (elapsedMs.toUInt64 / policy.intervalMs) := by
        rw [Checked.div?, if_neg (by omega), Checked.unsigned?_eq_some_iff,
          UInt64.toNat_div]
      rw [millis, Option.bind_eq_bind, Option.bind_some, intervals]
      rfl

/-- As many tokens as a bucket can hold, all of them regained every millisecond. -/
def fastest : Policy where
  capacity := 0xFFFF_FFFF
  refillRate := 0xFFFF_FFFF
  intervalMs := 1
  capacity_pos := by decide
  refillRate_pos := by decide
  intervalMs_pos := by decide
  intervalMs_lt := by decide

end Policy

namespace Bucket

/-- Adds the tokens of the whole intervals since the last refill, checked. -/
def refill? (policy : Policy) (bucket : Bucket) (now : Int64) : Option Bucket := do
  let difference ← Checked.sub? now bucket.lastRefillMs
  let elapsed := max difference 0
  let interval ← policy.interval?
  if interval ≤ elapsed then
    let earned ← policy.tokensFor? elapsed
    let tokens ← Checked.half?
      (min (Saturating.add bucket.tokens.toUInt64 earned)
        policy.capacity.toUInt64).toNat
    return { tokens, lastRefillMs := now }
  else return bucket

/-- Whether a refill would fill the bucket to its capacity, checked. -/
def isReplenished?
    (policy : Policy)
    (now : Int64)
    (bucket : Bucket) : Option Bool := do
  let difference ← Checked.sub? now bucket.lastRefillMs
  let earned ← policy.tokensFor? difference
  return policy.capacity.toUInt64 ≤
    Saturating.add bucket.tokens.toUInt64 earned

/-- The Unix second at which the current interval completes, checked.  An instant
before the epoch is no count, and taken for 0. -/
def resetSeconds? (policy : Policy) (bucket : Bucket) : Option UInt64 := do
  let interval ← policy.interval?
  let reset ←
    Checked.tdiv? (Saturating.shift bucket.lastRefillMs interval) 1000
  return (Checked.unsigned? reset.toInt).getD 0

/-- Whole seconds until the current interval completes, checked. -/
def retryAfterSeconds? (policy : Policy) (elapsed : Int64) : Option UInt64 := do
  let interval ← policy.interval?
  let left ← Checked.sub? interval elapsed
  let wait ← Checked.unsigned? (max left 0).toInt
  let seconds ← Checked.ceilDiv? wait 1000
  return max seconds 1

section Checked

variable (policy : Policy) {bucket : Bucket} {now : Int64}

theorem sub?_lastRefillMs (reaches : bucket.Reaches now) :
    Checked.sub? now bucket.lastRefillMs = some (now - bucket.lastRefillMs) :=
  Checked.signed?_eq_some_iff.2 (toInt_sub_lastRefillMs reaches)

/-- Up to the capacity a sum of tokens fits half a word. -/
theorem half?_min_capacity (sum : UInt64) :
    Checked.half? (min sum policy.capacity.toUInt64).toNat =
      some (min sum policy.capacity.toUInt64).toUInt32 := by
  have small := policy.capacity.toNat_lt
  have bounded : (min sum policy.capacity.toUInt64).toNat < 2 ^ 32 := by
    rw [Std.min_eq_if]
    split
    · next comparison =>
        rw [UInt64.le_iff_toNat_le, UInt32.toNat_toUInt64] at comparison
        omega
    · rw [UInt32.toNat_toUInt64]
      exact small
  rw [Checked.half?_eq_some_iff, UInt64.toNat_toUInt32,
    Nat.mod_eq_of_lt bounded]

theorem refill?_eq_some (reaches : bucket.Reaches now) :
    bucket.refill? policy now = some (bucket.refill policy now) := by
  rw [refill?, sub?_lastRefillMs reaches, policy.interval?_eq_some, refill]
  change (if policy.interval ≤ bucket.elapsed now then _ else _) = _
  split
  · rw [policy.tokensFor?_eq_some, Option.bind_eq_bind, Option.bind_some,
      half?_min_capacity]
    rfl
  · rfl

theorem isReplenished?_eq_some (reaches : bucket.Reaches now) :
    bucket.isReplenished? policy now =
      some (bucket.isReplenished policy now) := by
  rw [isReplenished?, sub?_lastRefillMs reaches, Option.bind_eq_bind,
    Option.bind_some, policy.tokensFor?_eq_some]
  rfl

theorem resetSeconds?_eq_some (bucket : Bucket) :
    bucket.resetSeconds? policy = some (bucket.resetSeconds policy) := by
  let due := Saturating.shift bucket.lastRefillMs policy.interval
  have divided : Checked.tdiv? due 1000 = some (due / 1000) := by
    rw [Checked.tdiv?, if_neg (by decide), Checked.signed?_eq_some_iff]
    exact Int64.toInt_div_of_ne_right _ _ (by decide)
  have counted : (Checked.unsigned? (due / 1000).toInt).getD 0 =
      if due / 1000 < 0 then 0 else (due / 1000).toUInt64 := by
    split
    · next before =>
        rw [Int64.lt_iff_toInt_lt, Int64.toInt_zero] at before
        rw [Checked.unsigned?, if_neg (by omega), Option.getD_none]
    · next since =>
        rw [Int64.lt_iff_toInt_lt, Int64.toInt_zero] at since
        rw [Checked.unsigned?_toInt (Int.not_lt.1 since), Option.getD_some]
  rw [resetSeconds?, policy.interval?_eq_some, Option.bind_eq_bind,
    Option.bind_some, divided]
  exact congrArg some counted

theorem retryAfterSeconds?_eq_some
    {elapsed : Int64}
    (forward : 0 ≤ elapsed.toInt) :
    retryAfterSeconds? policy elapsed =
      some (retryAfterSeconds policy elapsed) := by
  let wait := max (policy.interval - elapsed) 0
  have left : Checked.sub? policy.interval elapsed =
      some (policy.interval - elapsed) := by
    rw [Checked.sub?, Checked.signed?_eq_some_iff,
      toInt_interval_sub policy forward, Policy.toInt_interval]
  have waiting : 0 ≤ wait.toInt := by
    rw [Saturating.toInt_max_zero]
    exact Int.le_max_right ..
  have seconds : Checked.ceilDiv? wait.toUInt64 1000 =
      some (wait.toUInt64 / 1000 +
        if wait.toUInt64 % 1000 = 0 then 0 else 1) := by
    rw [Checked.ceilDiv?, if_neg (by decide), Checked.unsigned?_eq_some_iff,
      toNat_seconds]
    rfl
  rw [retryAfterSeconds?, policy.interval?_eq_some, Option.bind_eq_bind,
    Option.bind_some, left, Option.bind_eq_bind, Option.bind_some,
    Checked.unsigned?_toInt waiting, Option.bind_some, seconds]
  rfl

end Checked

/-- Two instants since the epoch are never too far apart. -/
theorem reaches_of_sinceEpoch
    {bucket : Bucket}
    {now : Int64}
    (refilled : 0 ≤ bucket.lastRefillMs.toInt)
    (sinceEpoch : 0 ≤ now.toInt) : bucket.Reaches now := by
  have latest := now.toInt_lt
  have latestRefill := bucket.lastRefillMs.toInt_lt
  constructor <;> omega

/-- Refill, eviction and the two times told are exact.  Whenever the time since the
last refill fits a signed word, and it does whenever both instants are since the
epoch, the checked computations go through and agree with the plain ones.  A
refill then leaves the tokens that the whole intervals have earned, up to the
capacity, and stamps the bucket exactly if an interval is over; the eviction test
holds exactly if that refill leaves the capacity; the second told is that of the
instant one interval after the last refill, held at the end of the time line and
at the epoch; and the wait is what is left of the interval, rounded up. -/
theorem checked_computations_exact
    {capacity refillRate : UInt32}
    {intervalMs : UInt64}
    {policy : Policy}
    (accepted : Policy.make capacity refillRate intervalMs = .ok policy)
    (bucket : Bucket)
    (now : Int64)
    (bounded : bucket.tokens.toNat ≤ capacity.toNat) :
    (0 ≤ bucket.lastRefillMs.toInt → 0 ≤ now.toInt → bucket.Reaches now) ∧
      (bucket.Reaches now →
        let span := now.toInt - bucket.lastRefillMs.toInt
        let refilled := bucket.refill policy now
        (bucket.refill? policy now = some refilled ∧
          refilled.tokens.toNat =
            min capacity.toNat (bucket.tokens.toNat +
              refillRate.toNat * ((max 0 span).toNat / intervalMs.toNat)) ∧
          (intervalMs.toNat ≤ span → refilled.lastRefillMs = now) ∧
          (span < intervalMs.toNat → refilled = bucket)) ∧
        (bucket.isReplenished? policy now =
            some (bucket.isReplenished policy now) ∧
          (bucket.isReplenished policy now = true ↔
            refilled.tokens = capacity)) ∧
        (∀ stored : Bucket,
          stored.resetSeconds? policy = some (stored.resetSeconds policy) ∧
            (stored.resetSeconds policy).toNat =
              (max 0 (min (stored.lastRefillMs.toInt + intervalMs.toNat)
                0x7FFF_FFFF_FFFF_FFFF)).toNat / 1000) ∧
        (retryAfterSeconds? policy (bucket.elapsed now) =
            some (retryAfterSeconds policy (bucket.elapsed now)) ∧
          (retryAfterSeconds policy (bucket.elapsed now)).toNat =
            max ((intervalMs.toNat - (max 0 span).toNat + 999) / 1000) 1)) := by
  obtain ⟨rfl, rfl, rfl⟩ := Policy.make_eq_ok accepted
  refine ⟨reaches_of_sinceEpoch, fun reaches => ?_⟩
  intro span refilled
  have forward := elapsed_nonneg bucket now
  have elapsed := toInt_elapsed reaches
  have nonneg : (max 0 span).toNat = span.toNat := by omega
  refine ⟨⟨refill?_eq_some policy reaches, ?tokens,
    lastRefillMs_refill_of_le policy reaches, refill_of_lt policy reaches⟩,
    ⟨isReplenished?_eq_some policy reaches, ?replenished⟩,
    fun stored => ⟨resetSeconds?_eq_some policy stored,
      toNat_resetSeconds policy stored⟩,
    ⟨retryAfterSeconds?_eq_some policy forward, ?wait⟩⟩
  case tokens =>
    rw [nonneg, Nat.mul_comm]
    exact toNat_tokens_refill policy reaches bounded
  case replenished =>
    rw [isReplenished_iff_available policy reaches bounded, ← UInt32.toNat_inj]
    rfl
  case wait =>
    rw [toNat_retryAfterSeconds policy forward]
    omega

/-- The longest span that a signed word can tell, under a policy that regains as many
tokens as there can be every millisecond.  What the span earns is held at the end
of its word, and so is the instant of the next refill. -/
theorem exact_over_longest_span :
    let bucket : Bucket := { tokens := 0, lastRefillMs := 0 }
    let now : Int64 := 0x7FFF_FFFF_FFFF_FFFF
    let refilled : Bucket := { tokens := 0xFFFF_FFFF, lastRefillMs := now }
    Policy.make 0xFFFF_FFFF 0xFFFF_FFFF 1 = .ok .fastest ∧
      bucket.tokens.toNat ≤ (0xFFFF_FFFF : UInt32).toNat ∧
      0 ≤ bucket.lastRefillMs.toInt ∧ 0 ≤ now.toInt ∧
      bucket.refill? .fastest now = some refilled ∧
      bucket.isReplenished? .fastest now = some true ∧
      refilled.resetSeconds? .fastest = some (0x7FFF_FFFF_FFFF_FFFF / 1000) ∧
      retryAfterSeconds? .fastest (bucket.elapsed now) = some 1 := by
  intro bucket now refilled
  have accepted : Policy.make 0xFFFF_FFFF 0xFFFF_FFFF 1 = .ok .fastest := rfl
  have bounded : bucket.tokens.toNat ≤ (0xFFFF_FFFF : UInt32).toNat := by decide
  have refilledBefore : 0 ≤ bucket.lastRefillMs.toInt := by decide
  have sinceEpoch : 0 ≤ now.toInt := by decide
  obtain ⟨reaches, exact⟩ :=
    checked_computations_exact accepted bucket now bounded
  obtain ⟨⟨filled, -⟩, ⟨tested, -⟩, told, ⟨waiting, -⟩⟩ :=
    exact (reaches refilledBefore sinceEpoch)
  refine ⟨accepted, bounded, refilledBefore, sinceEpoch, filled.trans ?_,
    tested.trans ?_, (told refilled).1.trans ?_, waiting.trans ?_⟩
  all_goals decide +kernel

end Bucket
end Turnstile
