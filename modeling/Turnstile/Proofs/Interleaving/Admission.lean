import Turnstile.Proofs.Interleaving.Consistency
import Turnstile.Proofs.Runs

/-!
# Admission at one instant

Any number of checks and sweeps run at the same time while the clock stands
still.  Whatever the schedule, a key is granted the tokens that a check would
have found at the start, or as many as it has checks if these are fewer; the
allowed checks report the numbers below the budget from the top down, each once;
and the key is stored once.

The accounts of all keys are in order at the start, because a run of completed
operations leaves no handle behind and no bucket above the capacity.  At the end
a refused check tells that the budget is used up, and otherwise all were allowed.
-/

namespace Turnstile
namespace Interleaving
namespace World

/-! ## When all checks are finished -/

/-- Whether all checks are finished. -/
def IsComplete (world : World) : Prop :=
  ∀ check ∈ world.checks, check.decision?.isSome = true

instance decidableIsComplete (world : World) : Decidable world.IsComplete :=
  inferInstanceAs (Decidable (∀ check ∈ world.checks, _ = true))

/-- What the finished checks of a key decided. -/
def decisions (world : World) (key : String) : List Decision :=
  (world.checks.filter (·.key = key)).filterMap Check.decision?

end World

theorem Check.stage_of_decision?
    {check : Check}
    {decision : Decision}
    (finished : check.decision? = some decision) :
    check.stage = .finished decision := by
  unfold Check.decision? at finished
  split at finished
  · next decided staged =>
      rw [staged, Option.some.inj finished]
  · cases finished

theorem Check.verdict?_of_decision?
    {check : Check}
    {decision : Decision}
    (finished : check.decision? = some decision) :
    check.verdict? = some decision := by
  rw [Check.verdict?, Check.stage_of_decision? finished]

/-- A finished check found the slot of its key as a decision leaves it. -/
theorem Check.Fits.hasDecided
    {policy : Policy}
    {now : Int64}
    {slot? : Option Slot}
    {check : Check}
    {decision : Decision}
    (fits : check.Fits policy now slot?)
    (finished : check.decision? = some decision) :
    HasDecided policy now slot? decision := by
  rw [Check.Fits, Check.stage_of_decision? finished] at fits
  exact fits

/-- The checks that were allowed report one number each. -/
theorem length_remainders_filterMap
    (checks : List Check)
    (decide? : Check → Option Decision) :
    (remainders (checks.filterMap decide?)).length =
      checks.countP fun check => (decide? check).any Decision.isAllowed := by
  rw [remainders, List.length_map, ← List.countP_eq_length_filter,
    List.countP_filterMap]
  congr 1
  funext check
  cases decide? check <;> rfl

namespace World

theorem allowedCount_eq_length (world : World) (key : String) :
    world.allowedCount key = (remainders (world.decisions key)).length := by
  rw [decisions, length_remainders_filterMap, List.countP_filter, allowedCount]
  congr 1
  funext check
  exact Bool.and_comm ..

end World

section Finished

variable
  {policy : Policy}
  {now : Int64}
  {slot? : Option Slot}
  {checks : List Check}
  {budget : Nat}

theorem grants_of_finished
    (finished : ∀ check ∈ checks, check.decision?.isSome = true) :
    grants checks = remainders (checks.filterMap Check.decision?) := by
  rw [grants]
  congr 1
  apply List.filterMap_congr
  intro check member
  obtain ⟨decision, decided⟩ := Option.isSome_iff_exists.1 (finished check member)
  rw [decided, Check.verdict?_of_decision? decided]

/-- Finished checks have used up their budget, or were all allowed. -/
theorem Account.length_of_finished
    (account : Account policy now slot? checks budget)
    (finished : ∀ check ∈ checks, check.decision?.isSome = true) :
    (remainders (checks.filterMap Check.decision?)).length =
      min budget checks.length := by
  have balanced := account.shared.balanced
  rw [grants_of_finished finished] at balanced
  have counted := length_remainders_filterMap checks Check.decision?
  have most := List.countP_le_length (l := checks)
    (p := fun check => check.decision?.any Decision.isAllowed)
  by_cases allowed : ∀ check ∈ checks,
      check.decision?.any Decision.isAllowed = true
  · have every := List.countP_eq_length.2 allowed
    omega
  · -- A refused check found the bucket empty, and it has stayed so.
    push Not at allowed
    obtain ⟨check, member, refused⟩ := allowed
    obtain ⟨decision, decided⟩ :=
      Option.isSome_iff_exists.1 (finished check member)
    rw [decided, Option.any_some, ne_eq, Bool.not_eq_true] at refused
    obtain ⟨slot, stored, -, empty⟩ :=
      (account.fits check member).hasDecided decided
    have exhausted : left policy now slot? = 0 := by
      rw [stored]
      exact empty refused
    omega

end Finished

end Interleaving

/-! ## From a limiter that a run has reached -/

namespace Limiter

/-- Whether a limiter is what a run leaves, the clock of which moved by signed
words. -/
def Reachable (limiter : Limiter) : Prop :=
  ∃ policy clock events,
    (start policy clock).Measurable events ∧
      ((start policy clock).run events).1 = limiter

/-- The tokens that a key can be granted at once: the capacity if it has no
bucket, else what its bucket holds after a refill. -/
def budget (limiter : Limiter) (key : String) : Nat :=
  match limiter.store.snapshot? key with
  | none => limiter.policy.capacity.toNat
  | some bucket =>
      (bucket.refill limiter.policy limiter.clock.nowMs).tokens.toNat

theorem Reachable.settled
    {limiter : Limiter}
    (reachable : limiter.Reachable) : limiter.Settled := by
  obtain ⟨policy, clock, events, -, rfl⟩ := reachable
  exact (settled_start policy clock).run events

/-- The stored buckets of a reached limiter can measure the time since their last
refill. -/
theorem Reachable.reaches
    {limiter : Limiter}
    (reachable : limiter.Reachable)
    {key : String}
    {bucket : Bucket}
    (stored : limiter.store.snapshot? key = some bucket) :
    bucket.Reaches limiter.clock.nowMs := by
  obtain ⟨policy, clock, events, measurable, rfl⟩ := reachable
  have follows : (start policy clock).Follows Clock.Spans (events ++ []) := by
    rw [List.append_nil]
    exact follows_start measurable
  exact (follows.run Clock.Spans.refl).stored stored _ List.mem_cons_self

end Limiter

namespace Interleaving

theorem left_get? (limiter : Limiter) (key : String) :
    left limiter.policy limiter.clock.nowMs (limiter.store.slots.get? key) =
      limiter.budget key := by
  rw [Limiter.budget, Store.snapshot?]
  cases limiter.store.slots.get? key <;> rfl

namespace World

/-- Checks for the given keys and a number of sweeps, all about to begin on a
limiter. -/
def start (limiter : Limiter) (keys : List String) (sweeps : Nat) : World :=
  { ofKeys limiter keys with
    sweeps := List.replicate sweeps { clockReading := none } }

/-- Checks that are about to begin ask nothing of the slot of their key. -/
theorem consistent_start
    {limiter : Limiter}
    (reachable : limiter.Reachable)
    (keys : List String)
    (sweeps : Nat) :
    (start limiter keys sweeps).Consistent limiter.budget := by
  have settled := reachable.settled
  have arrived : ∀ {key check},
      check ∈ (start limiter keys sweeps).checks.filter (·.key = key) →
        check = Check.arrive key := by
    intro key check member
    obtain ⟨listed, keyed⟩ := List.mem_filter.1 member
    obtain ⟨name, -, rfl⟩ := List.mem_map.1 listed
    rw [← of_decide_eq_true keyed]
    rfl
  have snapshot : ∀ {key slot},
      limiter.store.slots.get? key = some slot →
        limiter.store.snapshot? key = some slot.bucket := by
    intro key slot stored
    rw [Store.snapshot?, stored, Option.map_some]
  constructor
  · intro key
    refine ⟨?_, ?_, ?_⟩
    · intro check member
      rw [arrived member]
      trivial
    · intro slot stored
      refine ⟨?_, (settled.spent (snapshot stored)).le,
        reachable.reaches (snapshot stored)⟩
      rw [settled.atRest key slot stored, eq_comm, List.countP_eq_zero]
      intro check member
      rw [arrived member]
      exact Bool.false_ne_true
    · have ungranted : grants
          ((start limiter keys sweeps).checks.filter (·.key = key)) = [] := by
        rw [grants, List.filterMap_eq_nil_iff.2]
        · rfl
        · intro check member
          rw [arrived member]
          rfl
      rw [ungranted]
      exact ⟨left_get? limiter key, List.Perm.nil⟩
  · intro sweep member reading known
    rw [List.eq_of_mem_replicate member] at known
    cases known

/-- No schedule adds or drops a check. -/
theorem length_checks_run
    (limiter : Limiter)
    (keys : List String)
    (sweeps : Nat)
    (schedule : List Action)
    (key : String) :
    (((start limiter keys sweeps).run schedule).checks.filter
      (·.key = key)).length = keys.count key := by
  let final := (start limiter keys sweeps).run schedule
  have kept : final.checks.map Check.key = keys := by
    rw [map_key_run]
    change (keys.map Check.arrive).map Check.key = keys
    rw [List.map_map]
    exact List.map_id keys
  have counted : keys.count key = (final.checks.map Check.key).count key := by
    rw [kept]
  rw [counted, List.count, List.countP_map, List.countP_eq_length_filter]
  rfl

/-- Any number of checks and sweeps on a reached limiter, run at one instant in
any order until all checks are finished: each key is granted its budget, or as
many tokens as it has checks if these are fewer; the numbers of remaining tokens
reported are those below the budget from the top down, each once; and each
checked key is stored once. -/
theorem admission_at_one_instant
    {limiter : Limiter}
    (reachable : limiter.Reachable)
    (keys : List String)
    (sweeps : Nat)
    {schedule : List Action}
    (still : ∀ action ∈ schedule, action.IsStill)
    (complete : ((start limiter keys sweeps).run schedule).IsComplete)
    (key : String) :
    let final := (start limiter keys sweeps).run schedule
    let granted := min (limiter.budget key) (keys.count key)
    final.allowedCount key = granted ∧
      (remainders (final.decisions key)).Perm
        ((List.range granted).map fun taken =>
          limiter.budget key - 1 - taken) ∧
      (key ∈ keys → final.store.slots.keys.count key = 1) := by
  intro final granted
  have account := ((consistent_start reachable keys sweeps).run still).accounts key
  change Account _ _ (final.store.slots.get? key)
    (final.checks.filter (·.key = key)) _ at account
  have finished : ∀ check ∈ final.checks.filter (·.key = key),
      check.decision?.isSome = true :=
    fun check member => complete check (List.mem_of_mem_filter member)
  have number : (final.checks.filter (·.key = key)).length = keys.count key :=
    length_checks_run limiter keys sweeps schedule key
  have length :
      (remainders (final.decisions key)).length = granted := by
    rw [decisions, account.length_of_finished finished, number]
  refine ⟨?_, ?_, ?_⟩
  · rw [allowedCount_eq_length, length]
  · have descending := account.shared.descending
    rw [grants_of_finished finished] at descending
    rw [← length]
    exact descending
  · intro listed
    have positive : 0 < (final.checks.filter (·.key = key)).length := by
      rw [number]
      exact List.count_pos_iff.2 listed
    obtain ⟨check, member⟩ := List.exists_mem_of_length_pos positive
    obtain ⟨decision, decided⟩ :=
      Option.isSome_iff_exists.1 (finished check member)
    obtain ⟨slot, stored, -⟩ := (account.fits check member).hasDecided decided
    exact Table.count_keys_of_get?_eq_some stored

/-- Four checks of one key and a sweep that comes in between three times.  It
removes the bucket, which a second has refilled, when two checks have already read
the clock; later it finds the new bucket held, and then no longer full. -/
theorem admission_around_sweep :
    let events : List Limiter.Event := [.consume "a", .setClock 1000]
    let limiter := ((Limiter.start .small { nowMs := 0 }).run events).1
    let schedule : List Action :=
      [.readClock 0, .advance 0, .advance 1, .inspect 0 "a", .advance 0,
        .advance 1, .advance 0, .advance 1, .inspect 0 "a", .advance 1,
        .advance 1, .advance 0, .advance 0, .inspect 0 "a", .advance 2,
        .advance 2, .advance 2, .advance 2, .advance 3, .advance 3, .advance 3,
        .advance 3]
    let final := (start limiter ["a", "a", "a", "a"] 1).run schedule
    limiter.Reachable ∧ (∀ action ∈ schedule, action.IsStill) ∧
      final.IsComplete ∧ final.allowedCount "a" = 3 ∧
      (remainders (final.decisions "a")).Perm [2, 1, 0] ∧
      final.store.slots.keys.count "a" = 1 := by
  intro events limiter schedule
  dsimp only
  have reachable : limiter.Reachable :=
    ⟨.small, { nowMs := 0 }, events, by decide, rfl⟩
  have still : ∀ action ∈ schedule, action.IsStill := by decide
  have complete :
      ((start limiter ["a", "a", "a", "a"] 1).run schedule).IsComplete := by
    decide
  obtain ⟨number, descending, stored⟩ := admission_at_one_instant reachable
    ["a", "a", "a", "a"] 1 still complete "a"
  have full : limiter.budget "a" = 3 := by decide
  have four : List.count "a" ["a", "a", "a", "a"] = 4 := by decide
  have downwards :
      (List.range (min 3 4)).map (fun taken => 3 - 1 - taken) = [2, 1, 0] :=
    rfl
  rw [full, four] at number descending
  rw [downwards] at descending
  exact ⟨reachable, still, complete, number, descending, stored (by decide)⟩

end World
end Interleaving
end Turnstile
