import Mathlib.Tactic.Linarith
import Mathlib.Tactic.Ring
import Turnstile.Proofs.Oscillation

/-!
# What partial intervals cost

A refill counts whole intervals and stamps the bucket with the present instant, so
that the begun interval is thrown away.  That is less than one interval each time,
and at least one has been counted: a bucket earns at least half of what the refill
rate promises for the time up to its last refill, however its checks are timed.

The account behind this is exact.  Between two checks a bucket yields what it is
allowed to give away and what it holds in the end, and as long as no refill is cut
off by the capacity this is what it held before and what its refills have earned.
Yields of one check after the other add up to the yield of a run.
-/

namespace Turnstile

/-- A span of an interval at least loses less than half of itself to the interval that
is begun at its end. -/
theorem Policy.rate_mul_le_two_mul_earned
    (policy : Policy)
    {span : Int}
    (whole : policy.intervalMs.toNat ≤ span) :
    policy.refillRate.toNat * span ≤
      2 * policy.intervalMs.toNat * (policy.earned span : Int) := by
  obtain ⟨millis, rfl⟩ := Int.eq_ofNat_of_zero_le (a := span) (by omega)
  have positive := policy.intervalMs_pos
  have counted : 0 < millis / policy.intervalMs.toNat :=
    Nat.div_pos (by omega) positive
  have begun := Nat.mod_lt millis positive
  have parts := Nat.div_add_mod millis policy.intervalMs.toNat
  have interval := Nat.le_mul_of_pos_right policy.intervalMs.toNat counted
  have half : millis ≤
      2 * (policy.intervalMs.toNat * (millis / policy.intervalMs.toNat)) := by
    omega
  rw [earned, Int.toNat_natCast]
  calc (policy.refillRate.toNat * millis : Int)
    _ ≤ policy.refillRate.toNat * (2 * (policy.intervalMs.toNat *
          (millis / policy.intervalMs.toNat : Nat))) := by
        exact_mod_cast Nat.mul_le_mul_left policy.refillRate.toNat half
    _ = 2 * policy.intervalMs.toNat *
          (millis / policy.intervalMs.toNat * policy.refillRate.toNat : Nat) := by
        push_cast
        ring

namespace Bucket

/-- Whether the capacity has room for all that a refill at an instant earns. -/
def HasRoom (policy : Policy) (now : Int64) (bucket : Bucket) : Prop :=
  bucket.tokens.toNat +
      policy.earned (now.toInt - bucket.lastRefillMs.toInt) ≤
    policy.capacity.toNat

instance decidableHasRoom (policy : Policy) (now : Int64) (bucket : Bucket) :
    Decidable (bucket.HasRoom policy now) :=
  inferInstanceAs (Decidable (_ ≤ _))

/-- From one state of a bucket to another, with so many checks allowed and so many
tokens earned in between: no token is gained or lost, and the time between the
last refills has earned at least half of what the rate promises for it. -/
structure Yields
    (policy : Policy)
    (first last : Bucket)
    (allowed earned : Nat) : Prop where
  conserved : allowed + last.tokens.toNat = first.tokens.toNat + earned
  atLeastHalf :
    policy.refillRate.toNat *
        (last.lastRefillMs.toInt - first.lastRefillMs.toInt) ≤
      2 * policy.intervalMs.toNat * (earned : Int)

section Yields

variable {policy : Policy} {first second third : Bucket}

theorem Yields.refl (policy : Policy) (bucket : Bucket) :
    bucket.Yields policy bucket 0 0 where
  conserved := Nat.zero_add _
  atLeastHalf := by
    rw [Int.sub_self, Int.mul_zero]
    exact Int.le_refl _

theorem Yields.trans
    {allowed earned allowedThen earnedThen : Nat}
    (yields : first.Yields policy second allowed earned)
    (yieldsThen : second.Yields policy third allowedThen earnedThen) :
    first.Yields policy third (allowed + allowedThen)
      (earned + earnedThen) where
  conserved := by
    have before := yields.conserved
    have after := yieldsThen.conserved
    omega
  atLeastHalf := by
    have both := Int.add_le_add yields.atLeastHalf yieldsThen.atLeastHalf
    push_cast
    linarith only [both]

/-- A check yields what a refill at its instant earns. -/
theorem yields_take
    (policy : Policy)
    {bucket : Bucket}
    {now : Int64}
    (reaches : bucket.Reaches now)
    (room : bucket.HasRoom policy now) :
    bucket.Yields policy (bucket.take policy now).1
      (bucket.take policy now).2.isAllowed.toNat
      (policy.earned (now.toInt - bucket.lastRefillMs.toInt)) where
  conserved := by
    have bounded := (Nat.le_add_right ..).trans room
    rw [isAllowed_add_tokens_take, available_eq policy reaches bounded]
    exact Nat.min_eq_right room
  atLeastHalf := by
    rw [lastRefillMs_take]
    by_cases due : (policy.intervalMs.toNat : Int) ≤
        now.toInt - bucket.lastRefillMs.toInt
    · rw [lastRefillMs_refill_of_le policy reaches due]
      exact policy.rate_mul_le_two_mul_earned due
    · rw [refill_of_lt policy reaches (by omega), Int.sub_self, Int.mul_zero]
      positivity

end Yields
end Bucket

namespace Limiter

/-- The tokens that an event earns a key: those of a refill, if the event checks it. -/
def earning (limiter : Limiter) (key : String) (event : Event) : Nat :=
  if event = .consume key then
    limiter.policy.earned
      (limiter.clock.nowMs.toInt - (limiter.bucketFor key).lastRefillMs.toInt)
  else 0

/-- The tokens that a run earns a key. -/
def earnings (limiter : Limiter) (key : String) : List Event → Nat
  | [] => 0
  | event :: events =>
      limiter.earning key event + (limiter.step event).1.earnings key events

/-- Whether no refill of a key's bucket is cut off by the capacity. -/
def Unclipped (limiter : Limiter) (key : String) : List Event → Prop
  | [] => True
  | event :: events =>
      (event = .consume key →
        (limiter.bucketFor key).HasRoom limiter.policy limiter.clock.nowMs) ∧
      (limiter.step event).1.Unclipped key events

instance decidableUnclipped (limiter : Limiter) (key : String) :
    (events : List Event) → Decidable (limiter.Unclipped key events)
  | [] => .isTrue trivial
  | event :: events =>
      have := (limiter.step event).1.decidableUnclipped key events
      inferInstanceAs (Decidable (_ ∧ _))

section Earnings

variable {limiter : Limiter} {key : String}

/-- A check of a key adds one to those allowed, if it is. -/
theorem admitted_consume (limiter : Limiter) (key : String) (events : List Event) :
    admitted key (limiter.calls (.consume key :: events)) =
      (limiter.consume key).2.isAllowed.toNat +
        admitted key ((limiter.step (.consume key)).1.calls events) := by
  rw [calls_consume, step_consume, admitted, List.countP_cons, Nat.add_comm,
    admitted]
  cases (limiter.consume key).2.isAllowed <;> simp

/-- An event that does not check a key makes no call of it. -/
theorem key_ne_of_mem_call?
    {event : Event}
    (other : event ≠ .consume key)
    {call : Call}
    (made : call ∈ (limiter.call? event).toList) : call.key ≠ key := by
  rintro rfl
  exact other (of_mem_call? made).1

/-- An event that does not check a key adds nothing to what it is allowed. -/
theorem admitted_of_ne
    {event : Event}
    (other : event ≠ .consume key)
    (limiter : Limiter)
    (events : List Event) :
    admitted key (limiter.calls (event :: events)) =
      admitted key ((limiter.step event).1.calls events) := by
  have none : (limiter.call? event).toList.countP (fun call =>
      call.key = key ∧ call.decision.isAllowed) = 0 := by
    rw [List.countP_eq_zero]
    intro call made allowed
    exact key_ne_of_mem_call? other made (of_decide_eq_true allowed).1
  rw [calls, admitted, List.countP_append, none, Nat.zero_add]
  rfl

/-- Nor is it the first to check it. -/
theorem find?_calls_of_ne
    {event : Event}
    (other : event ≠ .consume key)
    (limiter : Limiter)
    (events : List Event) :
    (limiter.calls (event :: events)).find? (·.key = key) =
      ((limiter.step event).1.calls events).find? (·.key = key) := by
  have none :
      (limiter.call? event).toList.find? (·.key = key) = none := by
    rw [List.find?_eq_none]
    intro call made same
    exact key_ne_of_mem_call? other made (of_decide_eq_true same)
  rw [calls, List.find?_append, none, Option.none_or]

/-- An event that keeps the buckets and does not check a key leaves its bucket. -/
theorem snapshot?_step_of_keeping
    {event : Event}
    (keeping : event.IsKeeping)
    (other : event ≠ .consume key)
    (limiter : Limiter) :
    (limiter.step event).1.store.snapshot? key =
      limiter.store.snapshot? key := by
  cases event with
  | consume checked =>
      have distinct : key ≠ checked := by
        rintro rfl
        exact other rfl
      rw [step_consume]
      exact (limiter.snapshot?_consume checked key).trans (if_neg distinct)
  | evictIdle => exact absurd rfl keeping.1
  | clear => exact absurd rfl keeping.2
  | setClock nowMs => rfl

/-- A check of a key yields what its refill earns, starting from the bucket that the
check works on. -/
theorem yields_consume
    {events : List Event}
    (follows : limiter.Follows Clock.Spans (.consume key :: events))
    (unclipped : limiter.Unclipped key (.consume key :: events)) :
    ∃ taken,
      (limiter.step (.consume key)).1.store.snapshot? key = some taken ∧
      (limiter.bucketFor key).Yields limiter.policy taken
        (limiter.consume key).2.isAllowed.toNat
        (limiter.earning key (.consume key)) := by
  have reaches : (limiter.bucketFor key).Reaches limiter.clock.nowMs :=
    follows.bucketFor_now Clock.Spans.refl key
  rw [step_consume]
  refine ⟨_, snapshot?_consume_self limiter key, ?_⟩
  rw [decision_consume, earning, if_pos rfl]
  exact Bucket.yields_take _ reaches (unclipped.1 rfl)

/-- A run that keeps the buckets yields what its refills earn. -/
theorem yields_run
    {events : List Event}
    (follows : limiter.Follows Clock.Spans events)
    (keeping : ∀ event ∈ events, event.IsKeeping)
    (unclipped : limiter.Unclipped key events)
    {bucket : Bucket}
    (stored : limiter.store.snapshot? key = some bucket) :
    ∃ last, (limiter.run events).1.store.snapshot? key = some last ∧
      bucket.Yields limiter.policy last
        (admitted key (limiter.calls events)) (limiter.earnings key events) := by
  induction events generalizing limiter bucket with
  | nil => exact ⟨bucket, stored, .refl ..⟩
  | cons event events inductionHypothesis =>
      rw [run_cons]
      obtain ⟨keepingHead, keepingTail⟩ := List.forall_mem_cons.1 keeping
      have onward {next : Bucket}
          (storedThen : (limiter.step event).1.store.snapshot? key =
            some next) :=
        inductionHypothesis (follows.step Clock.Spans.refl) keepingTail
          unclipped.2 storedThen
      rw [policy_step] at onward
      by_cases checks : event = .consume key
      · subst checks
        obtain ⟨taken, storedThen, yields⟩ := yields_consume follows unclipped
        obtain ⟨last, storedLast, rest⟩ := onward storedThen
        refine ⟨last, storedLast, ?_⟩
        rw [bucketFor_of_some stored] at yields
        rw [admitted_consume, earnings]
        exact yields.trans rest
      · obtain ⟨last, storedLast, rest⟩ :=
          onward ((snapshot?_step_of_keeping keepingHead checks limiter).trans
            stored)
        refine ⟨last, storedLast, ?_⟩
        rw [admitted_of_ne checks, earnings, earning, if_neg checks,
          Nat.zero_add]
        exact rest

/-- From the first check of a key on, a run that keeps the buckets yields what its
refills earn, starting from a full bucket. -/
theorem yields_run_of_first
    {events : List Event}
    (follows : limiter.Follows Clock.Spans events)
    (keeping : ∀ event ∈ events, event.IsKeeping)
    (unclipped : limiter.Unclipped key events)
    (unknown : limiter.store.snapshot? key = none)
    {first : Call}
    (isFirst : (limiter.calls events).find? (·.key = key) = some first) :
    ∃ last, (limiter.run events).1.store.snapshot? key = some last ∧
      (Bucket.full limiter.policy.capacity first.now).Yields limiter.policy last
        (admitted key (limiter.calls events)) (limiter.earnings key events) := by
  induction events generalizing limiter with
  | nil => cases isFirst
  | cons event events inductionHypothesis =>
      rw [run_cons]
      obtain ⟨keepingHead, keepingTail⟩ := List.forall_mem_cons.1 keeping
      by_cases checks : event = .consume key
      · subst checks
        obtain ⟨taken, storedThen, yields⟩ := yields_consume follows unclipped
        obtain ⟨last, storedLast, rest⟩ :=
          yields_run (follows.step Clock.Spans.refl) keepingTail unclipped.2
            storedThen
        have began : limiter.clock.nowMs = first.now := by
          rw [calls_consume, List.find?_cons_of_pos (by simp)] at isFirst
          rw [← Option.some.inj isFirst]
        refine ⟨last, storedLast, ?_⟩
        rw [bucketFor_of_none unknown, began] at yields
        rw [policy_step] at rest
        rw [admitted_consume, earnings]
        exact yields.trans rest
      · rw [find?_calls_of_ne checks] at isFirst
        obtain ⟨last, storedLast, yields⟩ :=
          inductionHypothesis (follows.step Clock.Spans.refl) keepingTail
            unclipped.2
            ((snapshot?_step_of_keeping keepingHead checks limiter).trans
              unknown) isFirst
        refine ⟨last, storedLast, ?_⟩
        rw [policy_step] at yields
        rw [admitted_of_ne checks, earnings, earning, if_neg checks,
          Nat.zero_add]
        exact yields

end Earnings

/-- Partial intervals cost less than half of the nominal tokens.  However the clock
moves, as long as no bucket is removed and no refill of the key is cut off by the
capacity, what the key was allowed and its bucket still holds beyond the capacity
it started with is at least half of what the refill rate promises for the time
from the first check to the last refill. -/
theorem nominal_le_two_mul_earned
    (policy : Policy)
    (clock : Clock)
    (key : String)
    (events : List Event)
    (keeping : ∀ event ∈ events, event.IsKeeping)
    (measurable : (start policy clock).Measurable events)
    (unclipped : (start policy clock).Unclipped key events)
    {first : Call}
    (isFirst :
      ((start policy clock).calls events).find? (·.key = key) = some first) :
    ∃ last,
      ((start policy clock).run events).1.store.snapshot? key = some last ∧
        policy.refillRate.toNat *
            (last.lastRefillMs.toInt - first.now.toInt) ≤
          2 * policy.intervalMs.toNat *
            ((admitted key ((start policy clock).calls events) : Int) +
              last.tokens.toNat - policy.capacity.toNat) := by
  obtain ⟨last, stored, yields⟩ :=
    yields_run_of_first (follows_start measurable) keeping unclipped rfl isFirst
  refine ⟨last, stored, ?_⟩
  have conserved := yields.conserved
  change _ = policy.capacity.toNat + _ at conserved
  have earned : (admitted key ((start policy clock).calls events) : Int) +
      last.tokens.toNat - policy.capacity.toNat =
        (start policy clock).earnings key events := by
    omega
  rw [earned]
  exact yields.atLeastHalf

/-- Two refills that each come a millisecond before the second interval is over.  The
key has earned four tokens where the rate promises almost eight. -/
theorem earned_a_millisecond_early :
    let limiter := start .small { nowMs := 0 }
    let events : List Event :=
      [.consume "b", .consume "a", .consume "a", .consume "a", .setClock 1999,
        .consume "a", .setClock (-7), .consume "a", .consume "a",
        .setClock 3998, .consume "a"]
    let last : Bucket := { tokens := 1, lastRefillMs := 3998 }
    (∀ event ∈ events, event.IsKeeping) ∧ limiter.Measurable events ∧
      limiter.Unclipped "a" events ∧
      (limiter.calls events).find? (·.key = "a") =
        some { now := 0, key := "a", decision := .allowed 3 2 1 } ∧
      admitted "a" (limiter.calls events) = 6 ∧
      (limiter.run events).1.store.snapshot? "a" = some last ∧
      2 * (last.lastRefillMs.toInt - 0) ≤
        2 * 1000 * ((admitted "a" (limiter.calls events) : Int) +
          last.tokens.toNat - 3) := by
  obtain ⟨last, stored, half⟩ :=
    nominal_le_two_mul_earned .small { nowMs := 0 } "a"
      [.consume "b", .consume "a", .consume "a", .consume "a", .setClock 1999,
        .consume "a", .setClock (-7), .consume "a", .consume "a",
        .setClock 3998, .consume "a"]
      (by simp [Event.IsKeeping]) (by decide) (by decide +kernel)
      (show _ = some { now := 0, key := "a", decision := .allowed 3 2 1 } by
        decide +kernel)
  obtain rfl : last = { tokens := 1, lastRefillMs := 3998 } :=
    Option.some.inj (stored.symm.trans (by decide +kernel))
  exact ⟨by simp [Event.IsKeeping], by decide, by decide +kernel,
    by decide +kernel, by decide +kernel, stored, half⟩

end Limiter
end Turnstile
