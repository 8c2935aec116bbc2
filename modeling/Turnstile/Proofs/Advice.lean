import Turnstile.Proofs.DistantClock
import Turnstile.Proofs.Waiting

/-!
# Two times that agree

A refused client is told when the running interval will be over and how many
seconds that takes.  The first is rounded down from an instant, the second is
rounded up from a span, and they are computed on different paths; so they can
differ, but by no more than the rounding: the client that waits as it is told
comes back in the second it was told or in the next one.

After the refill of a check less than an interval has passed since the last one,
so that the interval is over after now and no later than one interval from now.
-/

namespace Turnstile
namespace Bucket

section Take

variable (policy : Policy) {bucket : Bucket} {now : Int64}

/-- The instant that a check tells lies between now and one interval from now. -/
theorem resetSeconds_take_within_interval
    (reaches : bucket.Reaches now)
    (past : bucket.lastRefillMs.toInt ≤ now.toInt)
    (sinceEpoch : 0 ≤ now.toInt)
    (room : now.toInt + policy.intervalMs.toNat ≤ 0x7FFF_FFFF_FFFF_FFFF) :
    now.toInt / 1000 ≤ ((bucket.take policy now).2.resetSeconds.toNat : Int) ∧
      ((bucket.take policy now).2.resetSeconds.toNat : Int) ≤
        (now.toInt + policy.intervalMs.toNat) / 1000 := by
  have recent := sub_lastRefillMs_refill_lt policy reaches
  have stamped := lastRefillMs_refill_le policy past
  rw [resetSeconds_take, toNat_resetSeconds, lastRefillMs_take]
  omega

/-- The instant that a refused check tells is the end of the running interval. -/
theorem resetSeconds_take_of_refused
    (refused : (bucket.take policy now).2.isAllowed = false) :
    (bucket.take policy now).2.resetSeconds = bucket.resetSeconds policy := by
  rw [resetSeconds_take, take_of_refused refused]

/-- The second in which the wait of a refused check ends is the one that it tells or
the next. -/
theorem retryAfterSeconds_take_of_refused
    (reaches : bucket.Reaches now)
    (past : bucket.lastRefillMs.toInt ≤ now.toInt)
    (sinceEpoch : 0 ≤ now.toInt)
    (room : now.toInt + policy.intervalMs.toNat ≤ 0x7FFF_FFFF_FFFF_FFFF)
    (refused : (bucket.take policy now).2.isAllowed = false) :
    let reset := ((bucket.take policy now).2.resetSeconds.toNat : Int)
    let retryAfter := ((bucket.take policy now).2.retryAfterSeconds.toNat : Int)
    now.toInt / 1000 + retryAfter = reset ∨
      now.toInt / 1000 + retryAfter = reset + 1 := by
  have running := sub_lastRefillMs_refill_lt policy reaches
  rw [refill_of_refused refused] at running
  have wait := wait_of_refused reaches past refused
  dsimp only at wait ⊢
  rw [resetSeconds_take_of_refused policy refused, toNat_resetSeconds]
  omega

end Take
end Bucket

namespace Limiter

/-- A clock that counts from the epoch and never goes back moves by signed words. -/
theorem timely_of_sinceEpoch
    {limiter : Limiter}
    {events : List Event}
    (ascending : limiter.Ascending events)
    (sinceEpoch : ∀ reading ∈ limiter.readings events, 0 ≤ reading.toInt) :
    limiter.Timely events := by
  apply List.Pairwise.imp_of_mem _ ascending
  intro earlier later member _ ordered
  have latest := later.toInt_lt
  have first := sinceEpoch earlier member
  exact ⟨ordered, by omega⟩

/-- The two times that a client is told agree.  Under a clock that counts from the
epoch and never goes back, the instant told by any check is no earlier than the
present second and no later than the second one interval from now; and where the
check is refused, the wait ends in the second told or in the next one. -/
theorem told_times_agree
    (policy : Policy)
    (clock : Clock)
    (events : List Event)
    (ascending : (start policy clock).Ascending events)
    (sinceEpoch : ∀ reading ∈ (start policy clock).readings events,
      0 ≤ reading.toInt) :
    ∀ call ∈ (start policy clock).calls events,
      call.now.toInt + policy.intervalMs.toNat ≤ 0x7FFF_FFFF_FFFF_FFFF →
      let reset := (call.decision.resetSeconds.toNat : Int)
      let retryAfter := (call.decision.retryAfterSeconds.toNat : Int)
      call.now.toInt / 1000 ≤ reset ∧
        reset ≤ (call.now.toInt + policy.intervalMs.toNat) / 1000 ∧
        (call.decision.isAllowed = false →
          (call.now.toInt / 1000 + retryAfter = reset ∨
            call.now.toInt / 1000 + retryAfter = reset + 1) ∧
          reset ≤ (call.now.toInt + 1000 * retryAfter) / 1000 ∧
          (call.now.toInt + 1000 * retryAfter) / 1000 ≤ reset + 1) := by
  intro call member room
  have timely := timely_of_sinceEpoch ascending sinceEpoch
  have made := sinceEpoch _ (now_mem_readings member)
  obtain ⟨earlier, later, rfl, now, decided⟩ := exists_of_mem_calls member
  have follows := (follows_start timely).run Clock.Precedes.refl
  have precedes := follows.bucketFor_now Clock.Precedes.refl call.key
  rw [decision_consume, policy_run, ← now] at decided
  rw [← now] at precedes
  change call.decision = (Bucket.take policy _ _).2 at decided
  rw [decided]
  obtain ⟨early, late⟩ := Bucket.resetSeconds_take_within_interval policy
    precedes.spans precedes.1 made room
  refine ⟨early, late, fun refused => ?_⟩
  have agree := Bucket.retryAfterSeconds_take_of_refused policy precedes.spans
    precedes.1 made room refused
  dsimp only at agree
  exact ⟨agree, by omega, by omega⟩

/-- Two refusals within an interval that ends at 2900 ms.  Both tell second 2, rounded
down.  The wait told at 1000 ms ends one second later than that, and the wait told
at 1950 ms ends in that second. -/
theorem waits_told_within_one_interval :
    let limiter := start .slow { nowMs := 400 }
    let events : List Event :=
      [.consume "a", .setClock 1000, .consume "a", .evictIdle, .setClock 1950,
        .consume "a"]
    let early : Call := { now := 1000, key := "a", decision := .denied 1 2 2 }
    let late : Call := { now := 1950, key := "a", decision := .denied 1 2 1 }
    limiter.Ascending events ∧
      (∀ reading ∈ limiter.readings events, 0 ≤ reading.toInt) ∧
      early ∈ limiter.calls events ∧ late ∈ limiter.calls events ∧
      early.now.toInt + 2500 ≤ 0x7FFF_FFFF_FFFF_FFFF ∧
      late.now.toInt + 2500 ≤ 0x7FFF_FFFF_FFFF_FFFF ∧
      (early.now.toInt / 1000 + 2 = 2 ∨ early.now.toInt / 1000 + 2 = 2 + 1) ∧
      early.now.toInt / 1000 + 2 ≠ 2 ∧
      (late.now.toInt / 1000 + 1 = 2 ∨ late.now.toInt / 1000 + 1 = 2 + 1) ∧
      late.now.toInt / 1000 + 1 = 2 := by
  intro limiter events early late
  have ascending : limiter.Ascending events := by decide
  have readings : limiter.readings events = [400, 1000, 1950] := by decide
  have sinceEpoch : ∀ reading ∈ limiter.readings events, 0 ≤ reading.toInt := by
    simp only [readings, List.forall_mem_cons]
    exact ⟨by decide, by decide, by decide, List.forall_mem_nil _⟩
  have first : early ∈ limiter.calls events := by decide +kernel
  have second : late ∈ limiter.calls events := by decide +kernel
  have agree := told_times_agree .slow { nowMs := 400 } events ascending sinceEpoch
  refine ⟨ascending, sinceEpoch, first, second, by decide, by decide, ?_,
    by decide, ?_, by decide⟩
  · exact ((agree early first (by decide)).2.2 rfl).1
  · exact ((agree late second (by decide)).2.2 rfl).1

end Limiter
end Turnstile
