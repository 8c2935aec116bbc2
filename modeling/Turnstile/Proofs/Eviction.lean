import Turnstile.Proofs.Runs

/-!
# Evictions that no client notices

A sweep removes a bucket only when a refill would fill it.  The bucket had spent
a token, so a whole interval lies behind it, and from then on a check would
stamp it and find it full: just what a check finds where the bucket is gone.

The relation that carries this through a run compares a limiter that has swept
with one that has not: key by key they store the same bucket, or the first
stores none and the second a replenished one.  While the clock does not go back,
no event leaves the relation, and related limiters decide alike.
-/

namespace Turnstile
namespace Limiter

/-- A run without its sweeps. -/
def withoutSweeps (events : List Event) : List Event :=
  events.filter (· ≠ .evictIdle)

theorem readings_withoutSweeps (limiter : Limiter) (events : List Event) :
    limiter.readings (withoutSweeps events) = limiter.readings events := by
  have kept : (withoutSweeps events).filterMap Event.reading? =
      events.filterMap Event.reading? := by
    induction events with
    | nil => rfl
    | cons event events inductionHypothesis =>
        cases event with
        | evictIdle => exact inductionHypothesis
        | consume key => exact inductionHypothesis
        | clear => exact inductionHypothesis
        | setClock nowMs => exact congrArg (nowMs :: ·) inductionHypothesis
  rw [readings, kept, readings]

/-- Leaving out the sweeps of a run leaves its clock as it was. -/
theorem follows_start_withoutSweeps
    {policy : Policy}
    {clock : Clock}
    {events : List Event}
    (timely : (start policy clock).Timely events) :
    (start policy clock).Follows Clock.Precedes (withoutSweeps events) := by
  apply follows_start
  rw [readings_withoutSweeps]
  exact timely

/-- The first limiter stores the buckets of the second but for some replenished
ones. -/
structure Thins (thinned whole : Limiter) : Prop where
  policy : thinned.policy = whole.policy
  clock : thinned.clock = whole.clock
  buckets : ∀ key,
    thinned.store.snapshot? key = whole.store.snapshot? key ∨
      thinned.store.snapshot? key = none ∧
        ∃ bucket, whole.store.snapshot? key = some bucket ∧
          bucket.isReplenished whole.policy whole.clock.nowMs = true

theorem Thins.refl (limiter : Limiter) : Thins limiter limiter where
  policy := rfl
  clock := rfl
  buckets _ := Or.inl rfl

section Step

variable {thinned whole : Limiter}

/-- Checks of related limiters come to the same. -/
theorem Thins.take_bucketFor
    (thins : Thins thinned whole)
    (settled : whole.Settled)
    {events : List Event}
    (follows : whole.Follows Clock.Spans events)
    (key : String) :
    (thinned.bucketFor key).take thinned.policy thinned.clock.nowMs =
      (whole.bucketFor key).take whole.policy whole.clock.nowMs := by
  rw [bucketFor, bucketFor, thins.policy, thins.clock]
  obtain same | ⟨gone, bucket, stored, replenished⟩ := thins.buckets key
  · rw [same]
  · have reaches : bucket.Reaches whole.clock.nowMs :=
      follows.stored stored _ List.mem_cons_self
    rw [gone, stored, Option.getD_none, Option.getD_some]
    exact (Bucket.take_eq_take_full _ reaches (settled.spent stored)
      replenished).symm

theorem Thins.consume
    (thins : Thins thinned whole)
    (settled : whole.Settled)
    {events : List Event}
    (follows : whole.Follows Clock.Spans events)
    (key : String) :
    Thins (thinned.consume key).1 (whole.consume key).1 where
  policy := thins.policy
  clock := thins.clock
  buckets := by
    intro other
    rw [snapshot?_consume, snapshot?_consume,
      thins.take_bucketFor settled follows]
    by_cases same : other = key
    · left
      rw [if_pos same, if_pos same]
    · rw [if_neg same, if_neg same]
      exact thins.buckets other

/-- A sweep of the first limiter alone removes nothing that the relation does
not allow for. -/
theorem Thins.evictIdle
    (thins : Thins thinned whole)
    (settled : thinned.Settled) :
    Thins thinned.evictIdle.1 whole where
  policy := thins.policy
  clock := thins.clock
  buckets := by
    intro key
    rw [snapshot?_evictIdle settled.atRest, thins.policy, thins.clock]
    obtain same | ⟨gone, replenished⟩ := thins.buckets key
    · rw [same]
      cases stored : whole.store.snapshot? key with
      | none => exact Or.inl rfl
      | some bucket =>
          by_cases replenished :
              bucket.isReplenished whole.policy whole.clock.nowMs = true
          · right
            refine ⟨?_, bucket, rfl, replenished⟩
            simp [Option.filter, replenished]
          · left
            simp [Option.filter, replenished]
    · right
      rw [gone]
      exact ⟨rfl, replenished⟩

theorem Thins.clear (thins : Thins thinned whole) :
    Thins thinned.clear whole.clear where
  policy := thins.policy
  clock := thins.clock
  buckets _ := Or.inl rfl

/-- A clock that moves on leaves a replenished bucket replenished. -/
theorem Thins.setClock
    (thins : Thins thinned whole)
    {nowMs : Int64}
    {events : List Event}
    (follows : whole.Follows Clock.Spans (.setClock nowMs :: events))
    (ordered : whole.clock.nowMs.toInt ≤ nowMs.toInt) :
    Thins (thinned.step (.setClock nowMs)).1
      (whole.step (.setClock nowMs)).1 where
  policy := thins.policy
  clock := rfl
  buckets := by
    intro key
    obtain same | ⟨gone, bucket, stored, replenished⟩ := thins.buckets key
    · exact Or.inl same
    · right
      refine ⟨gone, bucket, stored, ?_⟩
      have later : nowMs ∈ whole.readings (.setClock nowMs :: events) :=
        List.mem_cons_of_mem _ List.mem_cons_self
      exact Bucket.isReplenished_mono _
        (follows.stored stored _ List.mem_cons_self)
        (follows.stored stored nowMs later) ordered replenished

end Step

/-- Related limiters give the same decisions when only the second leaves out its
sweeps. -/
theorem Thins.calls_withoutSweeps
    {thinned whole : Limiter}
    (thins : Thins thinned whole)
    (thinnedSettled : thinned.Settled)
    (wholeSettled : whole.Settled)
    {events : List Event}
    (follows : whole.Follows Clock.Precedes events) :
    thinned.calls events = whole.calls (withoutSweeps events) := by
  induction events generalizing thinned whole with
  | nil => rfl
  | cons event events inductionHypothesis =>
      have next := thinnedSettled.step event
      have nextWhole := wholeSettled.step event
      have nextFollows := follows.step Clock.Precedes.refl
      have spans := follows.imp Clock.Precedes.spans
      cases event with
      | consume key =>
          have tail := inductionHypothesis
            (thins.consume wholeSettled spans key) next nextWhole nextFollows
          have decided : (thinned.consume key).2 = (whole.consume key).2 := by
            rw [decision_consume, decision_consume,
              thins.take_bucketFor wholeSettled spans]
          change _ :: (thinned.consume key).1.calls events =
            _ :: (whole.consume key).1.calls (withoutSweeps events)
          rw [tail, decided, thins.clock]
      | evictIdle =>
          have unswept : whole.Follows Clock.Precedes events :=
            ⟨follows.stored, follows.readings⟩
          exact inductionHypothesis (thins.evictIdle thinnedSettled) next
            wholeSettled unswept
      | clear =>
          exact inductionHypothesis thins.clear next nextWhole nextFollows
      | setClock nowMs =>
          have ordered := (follows.now Clock.Precedes.refl nowMs
            (List.mem_cons_of_mem _ List.mem_cons_self)).1
          exact inductionHypothesis (thins.setClock spans ordered) next nextWhole
            nextFollows

/-- The checks of a run of a new limiter are those of the run without its
sweeps. -/
theorem calls_start_withoutSweeps
    {policy : Policy}
    {clock : Clock}
    {events : List Event}
    (timely : (start policy clock).Timely events) :
    (start policy clock).calls events =
      (start policy clock).calls (withoutSweeps events) :=
  (Thins.refl _).calls_withoutSweeps (settled_start policy clock)
    (settled_start policy clock) (follows_start timely)

/-- Sweeps are invisible: under a clock that never goes back, leaving all of
them out of a run changes no decision. -/
theorem decisions_run_withoutSweeps
    (policy : Policy)
    (clock : Clock)
    (events : List Event)
    (timely : (start policy clock).Timely events) :
    decisions ((start policy clock).run events).2 =
      decisions ((start policy clock).run (withoutSweeps events)).2 := by
  rw [decisions_run, decisions_run, calls_start_withoutSweeps timely]

/-- A sweep removes a bucket that a second has refilled, and the key goes on to
its first refusal. -/
theorem decisions_run_across_removal :
    let limiter := start .small { nowMs := 0 }
    let events : List Event :=
      [.consume "a", .setClock 1000, .evictIdle, .consume "a", .consume "a",
        .consume "a", .consume "a"]
    limiter.Timely events ∧ .evicted 1 ∈ (limiter.run events).2 ∧
      decisions (limiter.run events).2 =
        decisions (limiter.run (withoutSweeps events)).2 := by
  intro limiter events
  have timely : limiter.Timely events := by decide
  exact ⟨timely, by decide, decisions_run_withoutSweeps _ _ events timely⟩

end Limiter
end Turnstile
