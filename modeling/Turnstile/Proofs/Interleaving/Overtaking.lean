import Turnstile.Proofs.Interleaving.Admission
import Turnstile.Proofs.Interleaving.Budget

/-!
# Sweeps that overtake a check

A check reads the clock before it takes a handle, and only a handle keeps sweeps
off its bucket.  A sweep may thus read the clock after a check, and remove the
bucket before the check finds it: it overtakes the check, which then stores a full
bucket as of a time before the sweep's.  The part of an interval up to the sweep's
reading, which had gone into filling the bucket removed, counts once more for the
new one.

The ceiling on granted requests therefore holds for a key under every schedule
that lets no sweep overtake a check of the key, and can be exceeded where a sweep
does.
-/

namespace Turnstile
namespace Interleaving

/-- The clock reading that an action sets. -/
def Action.reading? : Action → Option Int64
  | .setClock nowMs => some nowMs
  | _ => none

namespace World

/-- Checks for the given keys and a number of sweeps, all about to begin on a
limiter that knows no client. -/
def fresh
    (policy : Policy)
    (clock : Clock)
    (keys : List String)
    (sweeps : Nat) : World :=
  start (Limiter.start policy clock) keys sweeps

/-- The clock readings of a schedule, the present one first. -/
def readings (world : World) (schedule : List Action) : List Int64 :=
  world.clock.nowMs :: schedule.filterMap Action.reading?

/-- Whether the clock of a schedule never goes back, and moves by signed words. -/
def Timely (world : World) (schedule : List Action) : Prop :=
  (world.readings schedule).Pairwise Clock.Precedes

instance decidableTimely (world : World) (schedule : List Action) :
    Decidable (world.Timely schedule) :=
  inferInstanceAs (Decidable (List.Pairwise _ _))

/-- The clock reading that a check of a key makes in an action. -/
def timing? (world : World) (key : String) : Action → Option Int64
  | .advance index =>
      match world.checks[index]? with
      | some check =>
          if check.key = key ∧ check.stage = .arrived then
            some world.clock.nowMs
          else none
      | none => none
  | _ => none

/-- The clock readings that the checks of a key make in a schedule. -/
def timings (world : World) (key : String) : List Action → List Int64
  | [] => []
  | action :: schedule =>
      (world.timing? key action).toList ++ (world.act action).timings key schedule

/-- Whether a sweep removes the bucket of a key in an action while a check of the
key waits with an older clock reading than the sweep's. -/
def overtakes (world : World) (key : String) : Action → Bool
  | .inspect index visited =>
      match world.sweeps[index]? with
      | some { clockReading := some swept } =>
          world.store.contains key &&
            !(world.act (.inspect index visited)).store.contains key &&
            world.checks.any fun check =>
              check.key = key && check.waiting?.any (· < swept)
      | _ => false
  | _ => false

/-- Whether a schedule lets no sweep overtake a check of a key. -/
def NeverOvertaken (world : World) (key : String) : List Action → Prop
  | [] => True
  | action :: schedule =>
      world.overtakes key action = false ∧
        (world.act action).NeverOvertaken key schedule

instance decidableNeverOvertaken (world : World) (key : String) :
    (schedule : List Action) → Decidable (world.NeverOvertaken key schedule)
  | [] => .isTrue trivial
  | action :: schedule =>
      have := (world.act action).decidableNeverOvertaken key schedule
      inferInstanceAs (Decidable (_ ∧ _))

/-! ## One action -/

/-- Whether a key keeps to its budget, and all that is needed for it to go on so:
checks hold handles to their own keys, and sweeps have read the clock. -/
structure Governed
    (key : String)
    (origin : Int64)
    (opening closing : Int)
    (world : World) : Prop where
  keyed : ∀ check ∈ world.checks, check.IsKeyed
  budgeted : Budgeted world.policy origin world.clock.nowMs opening closing
    (world.store.slots.get? key) (world.checks.filter (·.key = key))
  swept : ∀ sweep ∈ world.sweeps, ∀ reading, sweep.clockReading = some reading →
    Clock.Within origin.toInt world.clock.nowMs.toInt reading

section Governed

variable
  {key : String}
  {origin : Int64}
  {opening closing : Int}
  {world : World}

theorem timing?_advance
    {index : Nat}
    {check : Check}
    (found : world.checks[index]? = some check)
    (keyed : check.key = key)
    (arrived : check.stage = .arrived) :
    world.timing? key (.advance index) = some world.clock.nowMs := by
  simp only [timing?, found]
  exact if_pos ⟨keyed, arrived⟩

theorem Governed.advance
    (governed : world.Governed key origin opening closing)
    (index : Nat)
    (within : ∀ reading, world.timing? key (.advance index) = some reading →
      Clock.Within opening closing reading) :
    (world.act (.advance index)).Governed key origin opening closing := by
  cases found : world.checks[index]? with
  | none =>
      simp only [act, found]
      exact governed
  | some check =>
      have member := List.mem_of_getElem? found
      have keyed := governed.keyed check member
      have bound : check.key = key →
          check.IsBound (world.store.slots.get? key) := by
        intro same
        apply governed.budgeted.bound check
        exact List.mem_filter.2 ⟨member, decide_eq_true same⟩
      have cases := act_advance_cases found keyed key bound
      rw [act_advance found] at cases ⊢
      refine ⟨?_, ?_, governed.swept⟩
      · intro other listed
        obtain present | rfl := List.mem_or_eq_of_mem_set listed
        · exact governed.keyed other present
        · exact isKeyed_advance world.policy world.clock world.store keyed
      · obtain ⟨own, moved, others, before, moves, after⟩ |
            ⟨-, frame, same⟩ := cases
        · have ordered := governed.budgeted.perm before
          refine (ordered.move moves ?_).perm after
          intro arrived
          exact within _ (timing?_advance found own arrived)
        · have budgeted := governed.budgeted
          rw [← frame] at budgeted
          exact budgeted.perm same

/-- A sweep that overtakes no check removes the bucket of a key only when all
checks that wait carry its own reading or a later one. -/
theorem le_of_not_overtakes
    {index : Nat}
    {visited : String}
    {swept : Int64}
    (found : world.sweeps[index]? = some { clockReading := some swept })
    (ahead : world.overtakes key (.inspect index visited) = false)
    {slot : Slot}
    (stored : world.store.slots.get? key = some slot)
    (removed : (key ≠ visited || slot.isKept
      (Bucket.isReplenished world.policy swept)) = false)
    {check : Check}
    (member : check ∈ world.checks.filter (·.key = key))
    {reading : Int64}
    (waits : check.waiting? = some reading) : swept.toInt ≤ reading.toInt := by
  obtain ⟨listed, keyed⟩ := List.mem_filter.1 member
  have present : world.store.contains key = true := by
    change (world.store.slots.get? key).isSome = true
    rw [stored]
    rfl
  have absent :
      (world.act (.inspect index visited)).store.contains key = false := by
    simp only [act, found]
    change ((world.store.inspect _ visited).slots.get? key).isSome = false
    rw [Store.get?_inspect, stored, Option.filter_some, removed]
    rfl
  simp only [overtakes, found] at ahead
  rw [present, absent, Bool.not_false, Bool.true_and, Bool.true_and,
    List.any_eq_false] at ahead
  have late := ahead check listed
  rw [waits, Option.any_some, keyed, Bool.true_and, decide_eq_true_iff,
    Int64.lt_iff_toInt_lt] at late
  exact Int.not_lt.1 late

/-- An action that lets no sweep overtake a check of a key keeps the key to its
budget. -/
theorem Governed.act
    (governed : world.Governed key origin opening closing)
    {action : Action}
    (onward : ∀ later, action.reading? = some later →
      Clock.Precedes origin later ∧ world.clock.nowMs.toInt ≤ later.toInt)
    (within : ∀ reading, world.timing? key action = some reading →
      Clock.Within opening closing reading)
    (ahead : world.overtakes key action = false) :
    (world.act action).Governed key origin opening closing := by
  cases action with
  | advance index => exact governed.advance index within
  | readClock index =>
      refine ⟨governed.keyed, governed.budgeted, ?_⟩
      intro sweep member reading known
      obtain present | rfl := List.mem_or_eq_of_mem_set member
      · exact governed.swept sweep present reading known
      · rw [← Option.some.inj known]
        exact ⟨governed.budgeted.begun.1, Int.le_refl _⟩
  | inspect index visited =>
      rw [World.act]
      split
      · next swept found =>
          have made := governed.swept _ (List.mem_of_getElem? found) swept rfl
          refine ⟨governed.keyed, ?_, governed.swept⟩
          dsimp only
          rw [Store.get?_inspect]
          apply governed.budgeted.visit made
          · intro slot removed
            rw [Bool.or_eq_false_iff, Slot.isKept, Bool.or_eq_false_iff]
              at removed
            obtain ⟨-, unheld, replenished⟩ := removed
            exact ⟨by simpa using unheld, by simpa using replenished⟩
          · intro slot stored removed check member reading waits
            exact le_of_not_overtakes found ahead stored removed member waits
      · exact governed
  | setClock nowMs =>
      obtain ⟨begun, ordered⟩ := onward nowMs rfl
      refine ⟨governed.keyed, governed.budgeted.later begun ordered, ?_⟩
      intro sweep member reading known
      exact (governed.swept sweep member reading known).extend ordered

end Governed

/-! ## A whole schedule -/

theorem policy_act (world : World) (action : Action) :
    (world.act action).policy = world.policy := by
  cases action with
  | advance index =>
      rw [act]
      split <;> rfl
  | readClock index => rfl
  | inspect index visited =>
      rw [act]
      split <;> rfl
  | setClock nowMs => rfl

theorem policy_run (world : World) (schedule : List Action) :
    (world.run schedule).policy = world.policy := by
  induction schedule generalizing world with
  | nil => rfl
  | cons action schedule inductionHypothesis =>
      rw [run_cons, inductionHypothesis, policy_act]

theorem readings_act_sublist
    (world : World)
    (action : Action)
    (schedule : List Action) :
    ((world.act action).readings schedule).Sublist
      (world.readings (action :: schedule)) := by
  cases action with
  | advance index =>
      have still : (world.act (.advance index)).clock = world.clock := by
        rw [act]
        split <;> rfl
      rw [readings, still]
      exact List.Sublist.refl _
  | readClock index => exact List.Sublist.refl _
  | inspect index visited =>
      have still : (world.act (.inspect index visited)).clock = world.clock := by
        rw [act]
        split <;> rfl
      rw [readings, still]
      exact List.Sublist.refl _
  | setClock nowMs => exact List.sublist_cons_self _ _

/-- An action does not set the clock back. -/
theorem Timely.onward
    {world : World}
    {action : Action}
    {schedule : List Action}
    (timely : world.Timely (action :: schedule))
    {later : Int64}
    (set : action.reading? = some later) :
    later ∈ world.readings (action :: schedule) ∧
      world.clock.nowMs.toInt ≤ later.toInt := by
  have member : later ∈ (action :: schedule).filterMap Action.reading? := by
    rw [List.filterMap_cons_some set]
    exact List.mem_cons_self
  exact ⟨List.mem_cons_of_mem _ member,
    ((List.pairwise_cons.1 timely).1 later member).1⟩

/-- A schedule that lets no sweep overtake a check of a key keeps the key to its
budget. -/
theorem Governed.run
    {key : String}
    {origin : Int64}
    {opening closing : Int}
    {world : World}
    (governed : world.Governed key origin opening closing)
    {schedule : List Action}
    (timely : world.Timely schedule)
    (begun : ∀ reading ∈ world.readings schedule, Clock.Precedes origin reading)
    (within : ∀ reading ∈ world.timings key schedule,
      Clock.Within opening closing reading)
    (ahead : world.NeverOvertaken key schedule) :
    (world.run schedule).Governed key origin opening closing := by
  induction schedule generalizing world with
  | nil => exact governed
  | cons action schedule inductionHypothesis =>
      obtain ⟨aheadHead, aheadTail⟩ := ahead
      have fewer := world.readings_act_sublist action schedule
      have next : (world.act action).Governed key origin opening closing := by
        refine governed.act ?_ ?_ aheadHead
        · intro later set
          obtain ⟨member, ordered⟩ := timely.onward set
          exact ⟨begun later member, ordered⟩
        · intro reading made
          apply within
          rw [timings, made]
          exact List.mem_cons_self
      apply inductionHypothesis next (timely.sublist fewer) ?_ ?_ aheadTail
      · intro reading member
        exact begun reading (fewer.subset member)
      · intro reading member
        exact within reading (List.mem_append_right _ member)

/-- Checks that are about to begin on a limiter without buckets have their budget
before them. -/
theorem governed_fresh
    (policy : Policy)
    (clock : Clock)
    (keys : List String)
    (sweeps : Nat)
    (key : String)
    (opening closing : Int) :
    (fresh policy clock keys sweeps).Governed key clock.nowMs opening closing := by
  have arrived : ∀ check ∈ (fresh policy clock keys sweeps).checks,
      ∃ name, check = Check.arrive name := by
    intro check member
    obtain ⟨name, -, rfl⟩ := List.mem_map.1 member
    exact ⟨name, rfl⟩
  refine ⟨?_, ?_, ?_⟩
  · intro check member handle held
    obtain ⟨name, rfl⟩ := arrived check member
    cases held
  · apply budgeted_of_arrived policy clock.nowMs opening closing
    intro check member
    obtain ⟨name, rfl⟩ := arrived check (List.mem_of_mem_filter member)
    rfl
  · intro sweep member reading known
    rw [List.eq_of_mem_replicate member] at known
    cases known

/-- Every finished check that was allowed counts as a grant. -/
theorem allowedCount_le_grantCount (world : World) (key : String) :
    world.allowedCount key ≤ grantCount (world.checks.filter (·.key = key)) := by
  rw [grantCount, List.countP_filter, allowedCount]
  apply List.countP_mono_left
  intro check member allowed
  obtain ⟨keyed, granted⟩ := Bool.and_eq_true_iff.1 allowed
  cases decided : check.decision? with
  | none =>
      rw [decided] at granted
      cases granted
  | some decision =>
      rw [decided] at granted
      rw [Check.verdict?_of_decision? decided, granted, Bool.true_and]
      exact keyed

/-- Any number of checks and sweeps on a limiter without buckets, in any order and
under a clock that never goes back: as long as no sweep overtakes a check of a key,
the key is granted at most the capacity and the refill rate for each whole interval
of a window that its clock readings lie in. -/
theorem allowedCount_le_of_never_overtaken
    (policy : Policy)
    (clock : Clock)
    (keys : List String)
    (sweeps : Nat)
    {schedule : List Action}
    (timely : (fresh policy clock keys sweeps).Timely schedule)
    {key : String}
    (ahead : (fresh policy clock keys sweeps).NeverOvertaken key schedule)
    {opening closing : Int}
    (within : ∀ reading ∈ (fresh policy clock keys sweeps).timings key schedule,
      Clock.Within opening closing reading) :
    ((fresh policy clock keys sweeps).run schedule).allowedCount key ≤
      policy.capacity.toNat + policy.refillRate.toNat *
        ((closing - opening).toNat / policy.intervalMs.toNat) := by
  have begun : ∀ reading ∈ (fresh policy clock keys sweeps).readings schedule,
      Clock.Precedes clock.nowMs reading := by
    intro reading member
    obtain rfl | later := List.mem_cons.1 member
    · exact Clock.Precedes.refl _
    · exact (List.pairwise_cons.1 timely).1 reading later
  have governed := (governed_fresh policy clock keys sweeps key opening
    closing).run timely begun within ahead
  have granted := governed.budgeted.granted
  rw [policy_run] at granted
  change _ ≤ policy.capacity.toNat + policy.earned (closing - opening) at granted
  rw [Policy.earned, Nat.mul_comm] at granted
  exact (allowedCount_le_grantCount _ key).trans granted

/-- The ceiling is reached where a sweep removes the bucket.  One check goes by a
reading from before the sweep's, but holds a handle and is refused; the next one
reads the clock when the sweep has. -/
theorem allowedCount_of_two_on_one_second :
    let world := fresh .single { nowMs := 0 } ["a", "a", "a"] 1
    let schedule : List Action :=
      [.advance 0, .advance 0, .advance 0, .advance 0, .advance 0,
        .setClock 500, .advance 1, .advance 1, .setClock 1000, .readClock 0,
        .inspect 0 "a", .advance 1, .advance 1, .advance 2, .inspect 0 "a",
        .advance 2, .advance 2, .advance 2, .advance 2]
    world.Timely schedule ∧ world.NeverOvertaken "a" schedule ∧
      (∀ reading ∈ world.timings "a" schedule, Clock.Within 0 1000 reading) ∧
      (world.run schedule).IsComplete ∧
      (world.run schedule).allowedCount "a" = 2 ∧
      (world.run schedule).allowedCount "a" ≤ 1 + 1 * ((1000 - 0) / 1000) := by
  intro world schedule
  have timely : world.Timely schedule := by decide
  have ahead : world.NeverOvertaken "a" schedule := by decide
  have made : world.timings "a" schedule = [0, 500, 1000] := by decide
  have within :
      ∀ reading ∈ world.timings "a" schedule, Clock.Within 0 1000 reading := by
    rw [made, List.forall_mem_cons, List.forall_mem_cons,
      List.forall_mem_singleton]
    decide
  have bound := allowedCount_le_of_never_overtaken .single { nowMs := 0 }
    ["a", "a", "a"] 1 timely ahead within
  exact ⟨timely, ahead, within, by decide, by decide, bound⟩

/-- A check reads the clock a millisecond before the second is full; a sweep reads
it when the second is full, and removes the bucket; the check stores a full bucket
as of its own reading.  That millisecond counts for both buckets: three tokens are
granted in less than two seconds. -/
theorem ceiling_exceeded_by_overtaken_check :
    let world := fresh .single { nowMs := 0 } ["a", "a", "a", "a"] 1
    let schedule : List Action :=
      [.advance 0, .advance 0, .advance 0, .advance 0, .advance 0,
        .setClock 999, .advance 1, .setClock 1000, .readClock 0,
        .inspect 0 "a", .advance 1, .advance 1, .advance 2, .advance 2,
        .advance 2, .advance 2, .setClock 1999, .advance 3, .advance 3,
        .advance 3, .advance 3, .advance 1, .advance 1]
    world.Timely schedule ∧ (world.run schedule).IsComplete ∧
      world.timings "a" schedule = [0, 999, 1000, 1999] ∧
      (world.run schedule).allowedCount "a" = 3 ∧
      ¬(world.run schedule).allowedCount "a" ≤ 1 + 1 * ((1999 - 0) / 1000) := by
  decide

end World
end Interleaving
end Turnstile
