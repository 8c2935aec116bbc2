import Mathlib.Algebra.Order.Floor.Div
import Turnstile.Proofs.Eviction

/-!
# The ceiling on granted requests

In any window of time a key is granted at most the capacity and the refill rate
for each interval that the window touches.

A bucket is worth, up to an instant, the tokens it holds and the tokens that the
time from its last refill to that instant earns.  A check takes from this worth
what it grants and adds nothing, because two spans earn no more apart than
together.  What the first check in a window finds is thus a bound on all that
the window grants; it is the capacity and the earnings of the window, lengthened
by the part of an interval that had passed before.

Sweeps are left out of the run first, so that a bucket once stored stays.
-/

namespace Turnstile
namespace Bucket

/-- The tokens that a bucket can grant up to an instant. -/
def worth (policy : Policy) (instant : Int) (bucket : Bucket) : Nat :=
  bucket.tokens.toNat + policy.earned (instant - bucket.lastRefillMs.toInt)

theorem worth_full (policy : Policy) (now : Int64) (instant : Int) :
    (full policy.capacity now).worth policy instant =
      policy.capacity.toNat + policy.earned (instant - now.toInt) := rfl

/-- A refill makes no bucket worth more. -/
theorem worth_refill_le
    (policy : Policy)
    {bucket : Bucket}
    {now : Int64}
    {instant : Int}
    (reaches : bucket.Reaches now)
    (bounded : bucket.tokens.toNat ≤ policy.capacity.toNat)
    (ordered : now.toInt ≤ instant) :
    (bucket.refill policy now).worth policy instant ≤
      bucket.worth policy instant := by
  by_cases due : (policy.intervalMs.toNat : Int) ≤
      now.toInt - bucket.lastRefillMs.toInt
  · have found := available_eq policy reaches bounded
    rw [available] at found
    have past : 0 ≤ now.toInt - bucket.lastRefillMs.toInt := by omega
    have ahead : 0 ≤ instant - now.toInt := by omega
    have together := policy.earned_add_le past ahead
    have span : now.toInt - bucket.lastRefillMs.toInt + (instant - now.toInt) =
        instant - bucket.lastRefillMs.toInt := by omega
    rw [span] at together
    rw [worth, worth, lastRefillMs_refill_of_le policy reaches due]
    omega
  · rw [refill_of_lt policy reaches (by omega)]

/-- What a check grants and leaves is the worth of the refilled bucket. -/
theorem isAllowed_add_worth_take
    (policy : Policy)
    (bucket : Bucket)
    (now : Int64)
    (instant : Int) :
    (bucket.take policy now).2.isAllowed.toNat +
        (bucket.take policy now).1.worth policy instant =
      (bucket.refill policy now).worth policy instant := by
  have tokens := isAllowed_add_tokens_take policy bucket now
  rw [available] at tokens
  rw [worth, worth, lastRefillMs_take]
  omega

/-- A refilled bucket is worth the capacity and what a span earns that is less
than one interval longer. -/
theorem worth_refill_le_window
    (policy : Policy)
    {bucket : Bucket}
    {now : Int64}
    {opening : Int}
    (reaches : bucket.Reaches now)
    (bounded : bucket.tokens.toNat ≤ policy.capacity.toNat)
    (opened : opening ≤ now.toInt)
    (instant : Int) :
    (bucket.refill policy now).worth policy instant ≤
      policy.capacity.toNat +
        policy.earned (instant - opening + (policy.intervalMs.toNat - 1)) := by
  have most := available_le policy bounded now
  have recent := sub_lastRefillMs_refill_lt policy reaches
  have within : instant - (bucket.refill policy now).lastRefillMs.toInt ≤
      instant - opening + (policy.intervalMs.toNat - 1) := by omega
  have more := policy.earned_mono within
  rw [available] at most
  rw [worth]
  omega

end Bucket

namespace Policy

/-- A window lengthened by almost an interval earns what its intervals earn when
the last one is counted as whole. -/
theorem earned_lengthened
    (policy : Policy)
    {span : Int}
    (forward : 0 ≤ span) :
    policy.earned (span + (policy.intervalMs.toNat - 1)) =
      policy.refillRate.toNat * (span.toNat ⌈/⌉ policy.intervalMs.toNat) := by
  have positive := policy.intervalMs_pos
  have length : (span + (policy.intervalMs.toNat - 1)).toNat =
      span.toNat + policy.intervalMs.toNat - 1 := by omega
  rw [earned, length, Nat.ceilDiv_eq_add_pred_div, Nat.mul_comm]

end Policy

namespace Limiter

/-- Whether a check is one of a key, in a window of time, and was allowed. -/
def Call.isGrant
    (key : String)
    (opening closing : Int)
    (call : Call) : Bool :=
  call.key = key ∧ call.decision.isAllowed ∧
    opening ≤ call.now.toInt ∧ call.now.toInt ≤ closing

/-- The number of checks of a key that were allowed in a window of time. -/
def granted
    (key : String)
    (opening closing : Int)
    (calls : List Call) : Nat :=
  calls.countP (Call.isGrant key opening closing)

/-- A check of the key adds one at most, and only if it was allowed. -/
theorem granted_consume_le
    (limiter : Limiter)
    (key : String)
    (events : List Event)
    (opening closing : Int) :
    granted key opening closing (limiter.calls (.consume key :: events)) ≤
      ((limiter.bucketFor key).take limiter.policy
          limiter.clock.nowMs).2.isAllowed.toNat +
        granted key opening closing
          ((limiter.consume key).1.calls events) := by
  change List.countP _ (_ :: (limiter.consume key).1.calls events) ≤ _
  rw [List.countP_cons, granted, ← decision_consume, Nat.add_comm]
  apply Nat.add_le_add_right
  split
  · next grant =>
      have allowed : (limiter.consume key).2.isAllowed = true :=
        (of_decide_eq_true grant).2.1
      rw [allowed]
      exact Nat.le_refl 1
  · exact Nat.zero_le _

/-- If what a check leaves bounds the grants that follow it, what it finds bounds
them and its own. -/
theorem granted_consume_le_worth
    (limiter : Limiter)
    (key : String)
    (events : List Event)
    (opening closing : Int)
    (rest : granted key opening closing
        ((limiter.consume key).1.calls events) ≤
      ((limiter.bucketFor key).take limiter.policy
        limiter.clock.nowMs).1.worth limiter.policy closing) :
    granted key opening closing (limiter.calls (.consume key :: events)) ≤
      ((limiter.bucketFor key).refill limiter.policy
        limiter.clock.nowMs).worth limiter.policy closing := by
  have head := limiter.granted_consume_le key events opening closing
  have found := Bucket.isAllowed_add_worth_take limiter.policy
    (limiter.bucketFor key) limiter.clock.nowMs closing
  omega

/-- A check of another key, or from before the window, adds nothing. -/
theorem granted_consume_of_outside
    (limiter : Limiter)
    {key checked : String}
    (events : List Event)
    {opening : Int}
    (closing : Int)
    (outside : checked ≠ key ∨ limiter.clock.nowMs.toInt < opening) :
    granted key opening closing (limiter.calls (.consume checked :: events)) =
      granted key opening closing
        ((limiter.consume checked).1.calls events) := by
  apply List.countP_cons_of_neg
  intro grant
  have inside := of_decide_eq_true grant
  obtain distinct | early := outside
  · exact distinct inside.1
  · have opened : opening ≤ limiter.clock.nowMs.toInt := inside.2.2.1
    omega

/-- Whether a window that a check of a key finds closed stays closed for the
checks of the key after it. -/
def StaysClosed (key : String) (closing : Int) (calls : List Call) : Prop :=
  calls.Pairwise fun earlier later =>
    earlier.key = key → closing < earlier.now.toInt →
      later.key = key → closing < later.now.toInt

/-- No window opens again under a clock that never goes back. -/
theorem staysClosed_of_timely
    {limiter : Limiter}
    {events : List Event}
    (timely : limiter.Timely events)
    (key : String)
    (closing : Int) : StaysClosed key closing (limiter.calls events) := by
  induction events generalizing limiter with
  | nil => exact List.Pairwise.nil
  | cons event events inductionHypothesis =>
      have tail := inductionHypothesis
        (timely.sublist (limiter.readings_step_sublist event events))
      cases event with
      | consume checked =>
          refine List.pairwise_cons.2 ⟨?_, tail⟩
          intro later member _ closed _
          have ordered : limiter.clock.nowMs.toInt ≤ later.now.toInt := by
            obtain same | after := List.mem_cons.1 (now_mem_readings member)
            · rw [same]
              exact Int.le_refl _
            · exact ((List.pairwise_cons.1 timely).1 later.now after).1
          exact closed.trans_le ordered
      | evictIdle => exact tail
      | clear => exact tail
      | setClock nowMs => exact tail

/-- A window that no check of the key is made after is never found closed. -/
theorem staysClosed_of_forall_le
    {key : String}
    {closing : Int}
    {calls : List Call}
    (within : ∀ call ∈ calls, call.key = key → call.now.toInt ≤ closing) :
    StaysClosed key closing calls := by
  apply List.pairwise_of_forall_mem_list
  intro earlier member later _ keyed closed
  exact absurd closed (Int.not_lt.2 (within earlier member keyed))

/-- A window that stays closed grants nothing more. -/
theorem granted_eq_zero_of_closed
    {key : String}
    {closing : Int}
    {call : Call}
    {calls : List Call}
    (stays : StaysClosed key closing (call :: calls))
    (keyed : call.key = key)
    (closed : closing < call.now.toInt)
    (opening : Int) : granted key opening closing (call :: calls) = 0 := by
  rw [granted, List.countP_eq_zero]
  intro other member grant
  obtain ⟨same, -, -, inside⟩ := of_decide_eq_true grant
  obtain rfl | later := List.mem_cons.1 member
  · omega
  · have after := (List.pairwise_cons.1 stays).1 other later keyed closed same
    omega

/-- Whether an event keeps every stored bucket. -/
def Event.IsKeeping (event : Event) : Prop :=
  event ≠ .evictIdle ∧ event ≠ .clear

/-- As long as buckets are kept, a key with a bucket is granted at most what the
bucket is worth at the close of the window. -/
theorem granted_le_worth
    {limiter : Limiter}
    (settled : limiter.Settled)
    {events : List Event}
    (follows : limiter.Follows Clock.Spans events)
    (keeping : ∀ event ∈ events, event.IsKeeping)
    {key : String}
    {closing : Int}
    (stays : StaysClosed key closing (limiter.calls events))
    {bucket : Bucket}
    (stored : limiter.store.snapshot? key = some bucket)
    (opening : Int) :
    granted key opening closing (limiter.calls events) ≤
      bucket.worth limiter.policy closing := by
  induction events generalizing limiter bucket with
  | nil => exact Nat.zero_le _
  | cons event events inductionHypothesis =>
      obtain ⟨keepingHead, keepingTail⟩ := List.forall_mem_cons.1 keeping
      have next := settled.step event
      have nextFollows := follows.step Clock.Spans.refl
      cases event with
      | consume checked =>
          have staysTail := (List.pairwise_cons.1 stays).2
          by_cases same : checked = key
          · subst same
            by_cases closed : closing < limiter.clock.nowMs.toInt
            · exact (granted_eq_zero_of_closed stays rfl closed opening).trans_le
                (Nat.zero_le _)
            · have rest := inductionHypothesis next nextFollows keepingTail
                staysTail (limiter.snapshot?_consume_self checked)
              have all := limiter.granted_consume_le_worth checked events
                opening closing rest
              have found := bucketFor_of_some stored
              have reaches : bucket.Reaches limiter.clock.nowMs :=
                follows.stored stored _ List.mem_cons_self
              rw [found] at all
              exact all.trans (Bucket.worth_refill_le limiter.policy reaches
                (settled.spent stored).le (Int.not_lt.1 closed))
          · rw [granted_consume_of_outside _ _ _ (Or.inl same)]
            apply inductionHypothesis next nextFollows keepingTail staysTail
            change (limiter.consume checked).1.store.snapshot? key = _
            rw [snapshot?_consume, if_neg (Ne.symm same), stored]
      | evictIdle => exact absurd rfl keepingHead.1
      | clear => exact absurd rfl keepingHead.2
      | setClock nowMs =>
          exact inductionHypothesis next nextFollows keepingTail stays stored

/-- A check of a key and the run after it are granted at most what the check
finds, as long as buckets are kept. -/
theorem granted_consume_le_worth_refill
    {limiter : Limiter}
    (settled : limiter.Settled)
    {key : String}
    {events : List Event}
    (follows : limiter.Follows Clock.Spans (.consume key :: events))
    (keeping : ∀ event ∈ events, event.IsKeeping)
    {closing : Int}
    (stays : StaysClosed key closing (limiter.calls (.consume key :: events)))
    (opening : Int) :
    granted key opening closing (limiter.calls (.consume key :: events)) ≤
      ((limiter.bucketFor key).refill limiter.policy
        limiter.clock.nowMs).worth limiter.policy closing := by
  apply granted_consume_le_worth
  exact granted_le_worth (settled.step (.consume key))
    (follows.step Clock.Spans.refl) keeping (List.pairwise_cons.1 stays).2
    (limiter.snapshot?_consume_self key) opening

/-- A window grants at most the capacity and the refill rate for each interval
that it touches. -/
theorem granted_le_of_keeping
    {limiter : Limiter}
    (settled : limiter.Settled)
    {events : List Event}
    (follows : limiter.Follows Clock.Precedes events)
    (keeping : ∀ event ∈ events, event.IsKeeping)
    (key : String)
    {opening closing : Int}
    (ordered : opening ≤ closing) :
    granted key opening closing (limiter.calls events) ≤
      limiter.policy.capacity.toNat +
        limiter.policy.refillRate.toNat *
          ((closing - opening).toNat ⌈/⌉ limiter.policy.intervalMs.toNat) := by
  induction events generalizing limiter with
  | nil => exact Nat.zero_le _
  | cons event events inductionHypothesis =>
      obtain ⟨keepingHead, keepingTail⟩ := List.forall_mem_cons.1 keeping
      have tail := inductionHypothesis (settled.step event)
        (follows.step Clock.Precedes.refl) keepingTail
      cases event with
      | consume checked =>
          by_cases outside :
              checked ≠ key ∨ limiter.clock.nowMs.toInt < opening
          · rw [granted_consume_of_outside _ _ _ outside]
            exact tail
          · obtain ⟨same, opened⟩ := not_or.1 outside
            rw [not_not] at same
            subst same
            have found := granted_consume_le_worth_refill settled
              (follows.imp Clock.Precedes.spans) keepingTail
              (staysClosed_of_timely follows.readings checked closing) opening
            have reaches : (limiter.bucketFor checked).Reaches
                limiter.clock.nowMs :=
              (follows.bucketFor_now Clock.Precedes.refl checked).spans
            have most := Bucket.worth_refill_le_window limiter.policy reaches
              (settled.tokens_bucketFor_le checked) (Int.not_lt.1 opened)
              closing
            have forward : 0 ≤ closing - opening := by omega
            rw [limiter.policy.earned_lengthened forward] at most
            exact found.trans most
      | evictIdle => exact absurd rfl keepingHead.1
      | clear => exact absurd rfl keepingHead.2
      | setClock nowMs => exact tail

/-- A window that opens with the first check of a key and stays closed afterwards
grants it at most the capacity and the refill rate for each whole interval. -/
theorem granted_le_of_opened_by_first
    {limiter : Limiter}
    (settled : limiter.Settled)
    {events : List Event}
    (follows : limiter.Follows Clock.Spans events)
    (keeping : ∀ event ∈ events, event.IsKeeping)
    {key : String}
    (unknown : limiter.store.snapshot? key = none)
    {first : Call}
    (isFirst : (limiter.calls events).find? (·.key = key) = some first)
    {closing : Int}
    (stays : StaysClosed key closing (limiter.calls events))
    (opening : Int) :
    granted key opening closing (limiter.calls events) ≤
      limiter.policy.capacity.toNat +
        limiter.policy.earned (closing - first.now.toInt) := by
  induction events generalizing limiter with
  | nil => cases isFirst
  | cons event events inductionHypothesis =>
      obtain ⟨keepingHead, keepingTail⟩ := List.forall_mem_cons.1 keeping
      have next := settled.step event
      have nextFollows := follows.step Clock.Spans.refl
      cases event with
      | consume checked =>
          change (_ :: (limiter.consume checked).1.calls events).find? _ = _
            at isFirst
          by_cases same : checked = key
          · subst same
            rw [List.find?_cons_of_pos (by simp)] at isFirst
            have began := Option.some.inj isFirst
            have fresh := bucketFor_of_none unknown
            have found := granted_consume_le_worth_refill settled follows
              keepingTail stays opening
            rw [fresh, Bucket.refill_full, Bucket.worth_full] at found
            rw [← began]
            exact found
          · rw [List.find?_cons_of_neg (by simpa using same)] at isFirst
            rw [granted_consume_of_outside _ _ _ (Or.inl same)]
            apply inductionHypothesis next nextFollows keepingTail ?_ isFirst
              (List.pairwise_cons.1 stays).2
            change (limiter.consume checked).1.store.snapshot? key = _
            rw [snapshot?_consume, if_neg (Ne.symm same), unknown]
      | evictIdle => exact absurd rfl keepingHead.1
      | clear => exact absurd rfl keepingHead.2
      | setClock nowMs =>
          exact inductionHypothesis next nextFollows keepingTail unknown isFirst
            stays

/-- A window that opens with the first check of a key grants it at most the
capacity and the refill rate for each whole interval. -/
theorem granted_le_of_first
    {limiter : Limiter}
    (settled : limiter.Settled)
    {events : List Event}
    (follows : limiter.Follows Clock.Precedes events)
    (keeping : ∀ event ∈ events, event.IsKeeping)
    {key : String}
    (unknown : limiter.store.snapshot? key = none)
    {first : Call}
    (isFirst : (limiter.calls events).find? (·.key = key) = some first)
    (closing : Int) :
    granted key first.now.toInt closing (limiter.calls events) ≤
      limiter.policy.capacity.toNat +
        limiter.policy.earned (closing - first.now.toInt) :=
  granted_le_of_opened_by_first settled (follows.imp Clock.Precedes.spans)
    keeping unknown isFirst
    (staysClosed_of_timely follows.readings key closing) first.now.toInt

/-- Under a clock that never goes back and as long as the store is not cleared,
a key is granted in any window at most the capacity and the refill rate for each
interval the window touches; if the window opens with the first check of the
key, only whole intervals count. -/
theorem granted_le_capacity_add_refills
    (policy : Policy)
    (clock : Clock)
    (key : String)
    (events : List Event)
    (uncleared : .clear ∉ events)
    (timely : (start policy clock).Timely events)
    (opening closing : Int)
    (ordered : opening ≤ closing) :
    granted key opening closing ((start policy clock).calls events) ≤
        policy.capacity.toNat + policy.refillRate.toNat *
          ((closing - opening).toNat ⌈/⌉ policy.intervalMs.toNat) ∧
      ∀ first,
        ((start policy clock).calls events).find? (·.key = key) = some first →
        first.now.toInt = opening →
        granted key opening closing ((start policy clock).calls events) ≤
          policy.capacity.toNat + policy.refillRate.toNat *
            ((closing - opening).toNat / policy.intervalMs.toNat) := by
  have settled := settled_start policy clock
  have keeping : ∀ event ∈ withoutSweeps events, event.IsKeeping := by
    intro event member
    obtain ⟨present, kept⟩ := List.mem_filter.1 member
    refine ⟨of_decide_eq_true kept, ?_⟩
    intro cleared
    exact uncleared (cleared ▸ present)
  have follows := follows_start_withoutSweeps timely
  rw [calls_start_withoutSweeps timely]
  constructor
  · exact granted_le_of_keeping settled follows keeping key ordered
  · intro first isFirst began
    have bound := granted_le_of_first settled follows keeping rfl isFirst closing
    rw [began, Policy.earned, Nat.mul_comm] at bound
    exact bound

/-- Checks on both sides of a refill.  In the millisecond up to the refill more
is granted than the capacity; from the first check on, all that whole intervals
allow. -/
theorem granted_on_both_sides_of_refill :
    let limiter := start .small { nowMs := 0 }
    let events : List Event :=
      [.consume "a", .setClock 999, .consume "a", .consume "a",
        .setClock 1000, .consume "a", .consume "a"]
    .clear ∉ events ∧ limiter.Timely events ∧
      granted "a" 999 1000 (limiter.calls events) = 4 ∧
      granted "a" 999 1000 (limiter.calls events) ≤ 3 + 2 * (1 ⌈/⌉ 1000) ∧
      granted "a" 0 1000 (limiter.calls events) = 5 ∧
      granted "a" 0 1000 (limiter.calls events) ≤ 3 + 2 * (1000 / 1000) := by
  intro limiter events
  have uncleared : .clear ∉ events := by decide
  have timely : limiter.Timely events := by decide
  have late := granted_le_capacity_add_refills .small { nowMs := 0 } "a" events
    uncleared timely 999 1000 (by decide)
  have whole := granted_le_capacity_add_refills .small { nowMs := 0 } "a" events
    uncleared timely 0 1000 (by decide)
  have first : (limiter.calls events).find? (·.key = "a") =
      some { now := 0, key := "a", decision := .allowed 3 2 1 } := by
    decide
  exact ⟨uncleared, timely, by decide, late.1, by decide, whole.2 _ first rfl⟩

end Limiter
end Turnstile
