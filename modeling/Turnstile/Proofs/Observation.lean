import Mathlib.Data.Nat.ModEq
import Turnstile.Proofs.Refill

/-!
# Buckets observed on the way

To observe a bucket is to refill it, and a refill moves its stamp: the interval
that has begun by then is thrown away.  A bucket that is observed on the way to
an instant therefore never holds more there than one left alone until then, and
it holds at most the tokens of one refill less.

Two spans that follow each other have the whole intervals of both together, but
for the one that their two partial intervals may make up.  The capacity adds
nothing to this: what it cuts off the first refill, it cuts off the last one too.
A span of whole intervals leaves no partial one, and a span shorter than an
interval moves no stamp; either costs nothing.

Every observation thus costs at most one refill, and the costs of several add up.
-/

namespace Turnstile
namespace Policy

section Earned

variable (policy : Policy) {first second : Int}

/-- Two spans earn at most one refill less apart than in one. -/
theorem earned_add_le_add_refillRate
    (firstForward : 0 ≤ first)
    (secondForward : 0 ≤ second) :
    policy.earned (first + second) ≤
      policy.earned first + policy.earned second +
        policy.refillRate.toNat := by
  have intervals := Nat.add_div_le_div_add_div_add_one first.toNat
    second.toNat policy.intervalMs.toNat
  have tokens := Nat.mul_le_mul_right policy.refillRate.toNat intervals
  rw [Nat.add_mul, Nat.add_mul, Nat.one_mul] at tokens
  rw [earned, earned, earned, Int.toNat_add firstForward secondForward]
  exact tokens

/-- Behind a span of whole intervals another earns what it earns by itself. -/
theorem earned_add_of_dvd
    (firstForward : 0 ≤ first)
    (secondForward : 0 ≤ second)
    (whole : (policy.intervalMs.toNat : Int) ∣ first) :
    policy.earned (first + second) =
      policy.earned first + policy.earned second := by
  obtain ⟨millis, rfl⟩ := Int.eq_ofNat_of_zero_le firstForward
  have intervals : policy.intervalMs.toNat ∣ millis :=
    Int.natCast_dvd_natCast.1 whole
  rw [earned, earned, earned, ← Nat.add_mul,
    Int.toNat_add firstForward secondForward, Int.toNat_natCast,
    Nat.add_div_of_dvd_right intervals]

end Earned

/-- A hundred tokens, ten of them regained four times a second: a policy with room for
several refills. -/
def roomy : Policy where
  capacity := 100
  refillRate := 10
  intervalMs := 250
  capacity_pos := by decide
  refillRate_pos := by decide
  intervalMs_pos := by decide
  intervalMs_lt := by decide

end Policy

namespace Bucket

/-- A check at an instant finds in the observed bucket what it would find in the
other one, or less by a number of tokens that is at most `cost`. -/
structure FallsShort
    (policy : Policy)
    (instant : Int64)
    (cost : Nat)
    (observed bucket : Bucket) : Prop where
  le : observed.available policy instant ≤ bucket.available policy instant
  le_add : bucket.available policy instant ≤
    observed.available policy instant + cost

section FallsShort

variable {policy : Policy} {instant : Int64} {bucket : Bucket}

theorem FallsShort.refl (policy : Policy) (instant : Int64) (bucket : Bucket) :
    FallsShort policy instant 0 bucket bucket where
  le := Nat.le_refl _
  le_add := Nat.le_refl _

/-- Costs add up. -/
theorem FallsShort.trans
    {further observed : Bucket}
    {costThen cost : Nat}
    (fallsThen : FallsShort policy instant costThen further observed)
    (falls : FallsShort policy instant cost observed bucket) :
    FallsShort policy instant (costThen + cost) further bucket where
  le := fallsThen.le.trans falls.le
  le_add := by
    have before := falls.le_add
    have after := fallsThen.le_add
    omega

theorem FallsShort.of_cost_le
    {observed : Bucket}
    {cost more : Nat}
    (falls : FallsShort policy instant cost observed bucket)
    (le : cost ≤ more) : FallsShort policy instant more observed bucket where
  le := falls.le
  le_add := falls.le_add.trans (Nat.add_le_add_left le _)

/-- What costs nothing leaves the same tokens to be found. -/
theorem FallsShort.available_eq_of_free
    {observed : Bucket}
    (free : FallsShort policy instant 0 observed bucket) :
    observed.available policy instant = bucket.available policy instant :=
  free.le.antisymm free.le_add

end FallsShort

/-! ## One observation -/

section Observation

variable (policy : Policy) {bucket : Bucket} {early late : Int64}

theorem reaches_of_le
    (begun : bucket.lastRefillMs.toInt ≤ early.toInt)
    (ordered : early.toInt ≤ late.toInt)
    (reaches : bucket.Reaches late) : bucket.Reaches early := by
  obtain ⟨-, close⟩ := reaches
  exact ⟨by omega, by omega⟩

/-- A refilled bucket reaches the instants that the bucket reached, from the refill
on. -/
theorem reaches_refill
    (begun : bucket.lastRefillMs.toInt ≤ early.toInt)
    (ordered : early.toInt ≤ late.toInt)
    (reaches : bucket.Reaches late) :
    (bucket.refill policy early).Reaches late := by
  obtain ⟨-, close⟩ := reaches
  obtain stamped | same := lastRefillMs_refill_or_eq policy bucket early
  · rw [Reaches, stamped]
    exact ⟨by omega, by omega⟩
  · rw [same]
    exact ⟨by omega, close⟩

/-- After a refill on the way, a check finds what the two spans earn apart, up to the
capacity: the capacity of the first refill is lost in that of the second. -/
theorem available_refill_of_le
    (bounded : bucket.tokens.toNat ≤ policy.capacity.toNat)
    (ordered : early.toInt ≤ late.toInt)
    (reaches : bucket.Reaches late)
    (due : (policy.intervalMs.toNat : Int) ≤
      early.toInt - bucket.lastRefillMs.toInt) :
    (bucket.refill policy early).available policy late =
      min policy.capacity.toNat
        (bucket.tokens.toNat +
          (policy.earned (early.toInt - bucket.lastRefillMs.toInt) +
            policy.earned (late.toInt - early.toInt))) := by
  have begun : bucket.lastRefillMs.toInt ≤ early.toInt := by omega
  have reachesEarly := reaches_of_le begun ordered reaches
  have reachesLate := reaches_refill policy begun ordered reaches
  have most := available_le policy bounded early
  have found := available_eq policy reachesEarly bounded
  rw [available] at most found
  rw [available_eq policy reachesLate most, found,
    lastRefillMs_refill_of_le policy reachesEarly due]
  omega

/-- Left alone, the bucket holds what the two spans earn in one. -/
theorem available_eq_of_two_spans
    (bounded : bucket.tokens.toNat ≤ policy.capacity.toNat)
    (reaches : bucket.Reaches late)
    (early : Int64) :
    bucket.available policy late =
      min policy.capacity.toNat
        (bucket.tokens.toNat +
          policy.earned (early.toInt - bucket.lastRefillMs.toInt +
            (late.toInt - early.toInt))) := by
  have span : early.toInt - bucket.lastRefillMs.toInt +
      (late.toInt - early.toInt) =
        late.toInt - bucket.lastRefillMs.toInt := by omega
  rw [span]
  exact available_eq policy reaches bounded

/-- Within an interval of the last refill an observation costs nothing. -/
theorem fallsShort_refill_of_lt
    (begun : bucket.lastRefillMs.toInt ≤ early.toInt)
    (ordered : early.toInt ≤ late.toInt)
    (reaches : bucket.Reaches late)
    (running : early.toInt - bucket.lastRefillMs.toInt <
      policy.intervalMs.toNat) :
    FallsShort policy late 0 (bucket.refill policy early) bucket := by
  rw [refill_of_lt policy (reaches_of_le begun ordered reaches) running]
  exact .refl policy late bucket

/-- An observation costs at most one refill. -/
theorem fallsShort_refill
    (bounded : bucket.tokens.toNat ≤ policy.capacity.toNat)
    (begun : bucket.lastRefillMs.toInt ≤ early.toInt)
    (ordered : early.toInt ≤ late.toInt)
    (reaches : bucket.Reaches late) :
    FallsShort policy late policy.refillRate.toNat
      (bucket.refill policy early) bucket := by
  by_cases due : (policy.intervalMs.toNat : Int) ≤
      early.toInt - bucket.lastRefillMs.toInt
  · have found := available_refill_of_le policy bounded ordered reaches due
    have alone := available_eq_of_two_spans policy bounded reaches early
    have past : 0 ≤ early.toInt - bucket.lastRefillMs.toInt := by omega
    have ahead : 0 ≤ late.toInt - early.toInt := by omega
    have atMost := policy.earned_add_le past ahead
    have atLeast := policy.earned_add_le_add_refillRate past ahead
    exact ⟨by omega, by omega⟩
  · have free := fallsShort_refill_of_lt policy begun ordered reaches
      (by omega)
    exact free.of_cost_le (Nat.zero_le _)

/-- Whole intervals after the last refill an observation costs nothing. -/
theorem fallsShort_refill_of_dvd
    (bounded : bucket.tokens.toNat ≤ policy.capacity.toNat)
    (begun : bucket.lastRefillMs.toInt ≤ early.toInt)
    (ordered : early.toInt ≤ late.toInt)
    (reaches : bucket.Reaches late)
    (whole : (policy.intervalMs.toNat : Int) ∣
      early.toInt - bucket.lastRefillMs.toInt) :
    FallsShort policy late 0 (bucket.refill policy early) bucket := by
  by_cases due : (policy.intervalMs.toNat : Int) ≤
      early.toInt - bucket.lastRefillMs.toInt
  · have found := available_refill_of_le policy bounded ordered reaches due
    have alone := available_eq_of_two_spans policy bounded reaches early
    have past : 0 ≤ early.toInt - bucket.lastRefillMs.toInt := by omega
    have ahead : 0 ≤ late.toInt - early.toInt := by omega
    rw [policy.earned_add_of_dvd past ahead whole, ← found] at alone
    exact ⟨alone.ge, alone.le⟩
  · exact fallsShort_refill_of_lt policy begun ordered reaches (by omega)

end Observation

/-! ## Several observations -/

/-- A bucket after observations at one instant after the other. -/
def observe (policy : Policy) (bucket : Bucket) (instants : List Int64) : Bucket :=
  instants.foldl (refill policy) bucket

/-- Observations one after the other cost at most one refill each. -/
theorem fallsShort_observe
    (policy : Policy)
    {bucket : Bucket}
    {instants : List Int64}
    {last : Int64}
    (bounded : bucket.tokens.toNat ≤ policy.capacity.toNat)
    (ascending : (bucket.lastRefillMs :: instants).Pairwise fun earlier later =>
      earlier.toInt ≤ later.toInt)
    (ordered : ∀ instant ∈ instants, instant.toInt ≤ last.toInt)
    (reaches : bucket.Reaches last) :
    FallsShort policy last (instants.length * policy.refillRate.toNat)
      (bucket.observe policy instants) bucket := by
  induction instants generalizing bucket with
  | nil =>
      rw [List.length_nil, Nat.zero_mul]
      exact .refl policy last bucket
  | cons instant instants inductionHypothesis =>
      obtain ⟨after, ascendingOn⟩ := List.pairwise_cons.1 ascending
      have begun := after instant List.mem_cons_self
      have orderedHere := ordered instant List.mem_cons_self
      have boundedThen := available_le policy bounded instant
      have reachesThen := reaches_refill policy begun orderedHere reaches
      -- The stamp stays or moves to the instant observed; the rest is after both.
      have ascendingThen :
          ((bucket.refill policy instant).lastRefillMs :: instants).Pairwise
            fun earlier later => earlier.toInt ≤ later.toInt := by
        obtain stamped | same := lastRefillMs_refill_or_eq policy bucket instant
        · rw [stamped]
          exact ascendingOn
        · rw [same]
          exact ascending.sublist ((List.sublist_cons_self ..).cons_cons _)
      have here := fallsShort_refill policy bounded begun orderedHere reaches
      have onward := inductionHypothesis boundedThen ascendingThen
        (fun later member => ordered later (List.mem_cons_of_mem _ member))
        reachesThen
      rw [List.length_cons, Nat.succ_mul]
      exact onward.trans here

/-! ## The tokens of two refills -/

/-- Observing a bucket on the way gains nothing and costs at most one refill.  From
the last refill on, two refills one after the other leave at most the tokens that
the second one alone would leave, and at most the refill rate less; and if the
first comes before an interval is over, or after a whole number of intervals, they
leave the same. -/
theorem observation_costs_at_most_one_refill
    (policy : Policy)
    (bucket : Bucket)
    (early late : Int64)
    (bounded : bucket.tokens.toNat ≤ policy.capacity.toNat)
    (begun : bucket.lastRefillMs.toInt ≤ early.toInt)
    (ordered : early.toInt ≤ late.toInt)
    (reaches : bucket.Reaches late) :
    let once := bucket.refill policy late
    let twice := (bucket.refill policy early).refill policy late
    twice.tokens.toNat ≤ once.tokens.toNat ∧
      once.tokens.toNat ≤ twice.tokens.toNat + policy.refillRate.toNat ∧
      (early.toInt - bucket.lastRefillMs.toInt < policy.intervalMs.toNat ∨
          (policy.intervalMs.toNat : Int) ∣
            early.toInt - bucket.lastRefillMs.toInt →
        twice.tokens = once.tokens) := by
  intro once twice
  have falls := fallsShort_refill policy bounded begun ordered reaches
  refine ⟨falls.le, falls.le_add, fun undisturbed => ?_⟩
  apply UInt32.toNat_inj.1
  obtain running | whole := undisturbed
  · exact (fallsShort_refill_of_lt policy begun ordered reaches
      running).available_eq_of_free
  · exact (fallsShort_refill_of_dvd policy bounded begun ordered reaches
      whole).available_eq_of_free

/-- Two intervals with one observation on the way, across the epoch.  A millisecond
before both are over it throws away almost one of them and costs a whole refill;
after the first interval it costs nothing. -/
theorem observed_inside_and_between_intervals :
    let bucket : Bucket := { tokens := 5, lastRefillMs := -125 }
    let once := bucket.refill .roomy 375
    let twice (early : Int64) := (bucket.refill .roomy early).refill .roomy 375
    bucket.tokens.toNat ≤ Policy.roomy.capacity.toNat ∧
      bucket.lastRefillMs.toInt ≤ (125 : Int64).toInt ∧
      (125 : Int64).toInt ≤ (374 : Int64).toInt ∧
      (374 : Int64).toInt ≤ (375 : Int64).toInt ∧
      bucket.Reaches 375 ∧
      once.tokens = 25 ∧ (twice 374).tokens = 15 ∧
      once.tokens.toNat ≤ (twice 374).tokens.toNat + 10 ∧
      (250 : Int) ∣ (125 : Int64).toInt - bucket.lastRefillMs.toInt ∧
      (twice 125).tokens = once.tokens := by
  intro bucket once twice
  have bounded : bucket.tokens.toNat ≤ Policy.roomy.capacity.toNat := by decide
  have reaches : bucket.Reaches 375 := ⟨by decide, by decide⟩
  have whole : (250 : Int) ∣ (125 : Int64).toInt - bucket.lastRefillMs.toInt := by
    decide
  obtain ⟨-, costly, -⟩ := observation_costs_at_most_one_refill .roomy bucket
    374 375 bounded (by decide) (by decide) reaches
  obtain ⟨-, -, free⟩ := observation_costs_at_most_one_refill .roomy bucket
    125 375 bounded (by decide) (by decide) reaches
  exact ⟨bounded, by decide, by decide, by decide, reaches, by decide +kernel,
    by decide +kernel, costly, whole, free (Or.inr whole)⟩

end Bucket
end Turnstile
