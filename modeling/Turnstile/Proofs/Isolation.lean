import Turnstile.Proofs.Runs

/-!
# Keys that do not notice each other

What a client is answered, and the bucket kept for it, depend on the client's
own checks, the clock, the sweeps and the clearings alone.

Two limiters look alike to a key if they agree on the policy, on the clock and
on the bucket of that key; whatever else they store does not matter.  A check of
another key leaves a limiter looking as it did.  Every other event shows the same
to the key in both and leaves them looking alike, although a sweep and a clearing
go through all the buckets.
-/

namespace Turnstile
namespace Limiter

/-- Whether an event is a check of another key. -/
def Event.IsForeign (key : String) : Event → Prop
  | .consume checked => checked ≠ key
  | _ => False

instance Event.decidableIsForeign (key : String) (event : Event) :
    Decidable (event.IsForeign key) :=
  match event with
  | .consume checked => inferInstanceAs (Decidable (checked ≠ key))
  | .evictIdle => .isFalse id
  | .clear => .isFalse id
  | .setClock _ => .isFalse id

/-- A run without the checks of other keys. -/
def withoutOthers (key : String) (events : List Event) : List Event :=
  events.filter fun event => ¬event.IsForeign key

/-- What an event shows to a key: what was decided on it, if it was checked, and
its bucket afterwards, if it has one. -/
structure View where
  decision? : Option Decision
  bucket? : Option Bucket
deriving DecidableEq, Repr

/-- What one event shows to a key. -/
def view (limiter : Limiter) (key : String) (event : Event) : View where
  decision? := (limiter.step event).2.decision?
  bucket? := (limiter.step event).1.store.snapshot? key

/-- What a run shows to a key, event by event.  The checks of other keys are not
its own to see. -/
def views (limiter : Limiter) (key : String) : List Event → List View
  | [] => []
  | event :: events =>
      if event.IsForeign key then (limiter.step event).1.views key events
      else limiter.view key event :: (limiter.step event).1.views key events

/-- Whether two limiters agree on all that a key depends on. -/
structure LooksLike (key : String) (first second : Limiter) : Prop where
  policy : first.policy = second.policy
  clock : first.clock = second.clock
  bucket : first.store.snapshot? key = second.store.snapshot? key

section LooksLike

variable {key : String} {first second : Limiter}

theorem LooksLike.refl (key : String) (limiter : Limiter) :
    LooksLike key limiter limiter where
  policy := rfl
  clock := rfl
  bucket := rfl

/-- A check of another key changes nothing that the key depends on. -/
theorem LooksLike.step_foreign
    (alike : LooksLike key first second)
    {event : Event}
    (foreign : event.IsForeign key) :
    LooksLike key (first.step event).1 second := by
  cases event with
  | consume checked =>
      refine ⟨alike.policy, alike.clock, ?_⟩
      change (first.consume checked).1.store.snapshot? key = _
      rw [snapshot?_consume, if_neg (Ne.symm foreign), alike.bucket]
  | evictIdle => exact absurd foreign id
  | clear => exact absurd foreign id
  | setClock nowMs => exact absurd foreign id

/-- Limiters that look alike to a key check it alike. -/
theorem LooksLike.take_bucketFor (alike : LooksLike key first second) :
    (first.bucketFor key).take first.policy first.clock.nowMs =
      (second.bucketFor key).take second.policy second.clock.nowMs := by
  rw [bucketFor, bucketFor, alike.policy, alike.clock, alike.bucket]

/-- Every event that is not a check of another key shows the key the same in both
limiters. -/
theorem LooksLike.view
    (alike : LooksLike key first second)
    (firstSettled : first.Settled)
    (secondSettled : second.Settled)
    {event : Event}
    (own : ¬event.IsForeign key) :
    first.view key event = second.view key event := by
  cases event with
  | consume checked =>
      have same : checked = key := not_not.1 own
      subst same
      change View.mk (some (first.consume checked).2)
          ((first.consume checked).1.store.snapshot? checked) =
        View.mk (some (second.consume checked).2)
          ((second.consume checked).1.store.snapshot? checked)
      rw [decision_consume, decision_consume, snapshot?_consume_self,
        snapshot?_consume_self, alike.take_bucketFor]
  | evictIdle =>
      change View.mk none (first.evictIdle.1.store.snapshot? key) =
        View.mk none (second.evictIdle.1.store.snapshot? key)
      rw [snapshot?_evictIdle firstSettled.atRest,
        snapshot?_evictIdle secondSettled.atRest, alike.policy, alike.clock,
        alike.bucket]
  | clear => rfl
  | setClock nowMs => exact congrArg (View.mk none) alike.bucket

/-- An event that shows the key the same leaves the limiters looking alike. -/
theorem LooksLike.step
    (alike : LooksLike key first second)
    (firstSettled : first.Settled)
    (secondSettled : second.Settled)
    {event : Event}
    (own : ¬event.IsForeign key) :
    LooksLike key (first.step event).1 (second.step event).1 where
  policy := by
    rw [policy_step, policy_step, alike.policy]
  clock := by
    cases event with
    | setClock nowMs => rfl
    | consume checked => exact alike.clock
    | evictIdle => exact alike.clock
    | clear => exact alike.clock
  bucket :=
    congrArg View.bucket? (alike.view firstSettled secondSettled own)

/-- A run shows a key what the run without the checks of other keys shows it from
any limiter that looks alike. -/
theorem LooksLike.views_withoutOthers
    (alike : LooksLike key first second)
    (firstSettled : first.Settled)
    (secondSettled : second.Settled)
    (events : List Event) :
    first.views key events = second.views key (withoutOthers key events) := by
  induction events generalizing first second with
  | nil => rfl
  | cons event events inductionHypothesis =>
      have next := firstSettled.step event
      by_cases foreign : event.IsForeign key
      · have dropped : withoutOthers key (event :: events) =
            withoutOthers key events :=
          List.filter_cons_of_neg (by simpa using foreign)
        rw [views, if_pos foreign, dropped]
        exact inductionHypothesis (alike.step_foreign foreign) next secondSettled
      · have kept : withoutOthers key (event :: events) =
            event :: withoutOthers key events :=
          List.filter_cons_of_pos (by simpa using foreign)
        rw [views, if_neg foreign, kept, views, if_neg foreign,
          alike.view firstSettled secondSettled foreign]
        exact congrArg _ (inductionHypothesis
          (alike.step firstSettled secondSettled foreign) next
          (secondSettled.step event))

end LooksLike

/-- Keys are isolated, however the clock moves: leaving the checks of all other
keys out of a run changes neither what is decided for a key nor its bucket after
any of the events left; so two runs that differ in the checks of other keys only
show the key the same. -/
theorem views_eq_views_withoutOthers
    (policy : Policy)
    (clock : Clock)
    (key : String)
    (events : List Event) :
    (start policy clock).views key events =
        (start policy clock).views key (withoutOthers key events) ∧
      ∀ others, withoutOthers key others = withoutOthers key events →
        (start policy clock).views key others =
          (start policy clock).views key events := by
  have settled := settled_start policy clock
  have erased (events : List Event) :
      (start policy clock).views key events =
        (start policy clock).views key (withoutOthers key events) :=
    (LooksLike.refl key _).views_withoutOthers settled settled events
  refine ⟨erased events, ?_⟩
  intro others agree
  rw [erased others, agree, erased events]

/-- Other clients come and go around a sweep that removes the key's bucket, a
clearing, and a clock that goes back.  What they do differs between the two runs,
and the key is shown the same. -/
theorem views_beside_two_others :
    let limiter := start .small { nowMs := 0 }
    let beside : List Event :=
      [.consume "b", .consume "a", .setClock 1000, .consume "c", .evictIdle,
        .consume "a", .clear, .consume "b", .setClock (-5), .consume "a"]
    let alone : List Event :=
      [.consume "a", .setClock 1000, .evictIdle, .consume "d", .consume "d",
        .consume "a", .clear, .setClock (-5), .consume "a", .consume "b"]
    withoutOthers "a" beside = withoutOthers "a" alone ∧
      limiter.views "a" beside = limiter.views "a" alone ∧
      (limiter.views "a" alone).map View.bucket? =
        [some { tokens := 2, lastRefillMs := 0 },
          some { tokens := 2, lastRefillMs := 0 }, none,
          some { tokens := 2, lastRefillMs := 1000 }, none, none,
          some { tokens := 2, lastRefillMs := -5 }] := by
  intro limiter beside alone
  have agree : withoutOthers "a" beside = withoutOthers "a" alone := by decide
  have isolated := views_eq_views_withoutOthers .small { nowMs := 0 } "a" alone
  exact ⟨agree, isolated.2 beside agree, by decide +kernel⟩

end Limiter
end Turnstile
