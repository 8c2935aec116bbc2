import Mathlib.Algebra.Order.Floor.Div
import Turnstile.Proofs.Refusals
import Turnstile.Proofs.Tracking

/-!
# What a sweep leaves behind

A bucket is stamped when it is created and when it is refilled, and both times
there is a token to take: the stamp of a stored bucket is the clock reading of an
allowed check of its key.  Denied checks leave no stamp, so a client that is
only ever refused does not keep its bucket alive.

A sweep takes the buckets that are worth their capacity.  What is left has been
refilled too recently to be full again, and its key has been granted a token
since; the memory that buckets take is bounded by the grants of the time that a
bucket needs to fill up.
-/

namespace Turnstile

/-- The tokens of a span in which an empty bucket fills up reach its capacity. -/
theorem Policy.capacity_le_earned
    (policy : Policy)
    {span : Int}
    (filled : policy.intervalMs.toNat *
      (policy.capacity.toNat ⌈/⌉ policy.refillRate.toNat) ≤ span) :
    policy.capacity.toNat ≤ policy.earned span := by
  have intervals : policy.capacity.toNat ⌈/⌉ policy.refillRate.toNat ≤
      span.toNat / policy.intervalMs.toNat := by
    rw [Nat.le_div_iff_mul_le policy.intervalMs_pos, Nat.mul_comm]
    omega
  calc policy.capacity.toNat
    _ ≤ policy.refillRate.toNat *
          (policy.capacity.toNat ⌈/⌉ policy.refillRate.toNat) :=
        le_smul_ceilDiv policy.refillRate_pos
    _ ≤ policy.refillRate.toNat *
          (span.toNat / policy.intervalMs.toNat) :=
        Nat.mul_le_mul_left _ intervals
    _ = policy.earned span := Nat.mul_comm ..

namespace Bucket

/-- A check leaves the stamp of the bucket there, or sets its own and is allowed. -/
theorem stamp_take_eq_or_allowed
    (policy : Policy)
    (bucket : Bucket)
    (now : Int64) :
    (bucket.take policy now).1.lastRefillMs = bucket.lastRefillMs ∨
      (bucket.take policy now).1.lastRefillMs = now ∧
        (bucket.take policy now).2.isAllowed = true := by
  rw [lastRefillMs_take, isAllowed_take, refill]
  by_cases due : policy.interval ≤ bucket.elapsed now
  · right
    rw [if_pos due]
    exact ⟨rfl, decide_eq_true (available_pos_of_due policy due)⟩
  · left
    rw [if_neg due]

/-- A bucket that is not replenished is worth less than its capacity. -/
theorem isReplenished_eq_false_iff
    (policy : Policy)
    {bucket : Bucket}
    {now : Int64}
    (reaches : bucket.Reaches now) :
    bucket.isReplenished policy now = false ↔
      bucket.tokens.toNat +
          policy.earned (now.toInt - bucket.lastRefillMs.toInt) <
        policy.capacity.toNat := by
  rw [← Bool.not_eq_true, isReplenished_iff policy reaches, Nat.not_le]

end Bucket

namespace Limiter

/-! ## Stamps and grants -/

/-- Whether every stored bucket bears the clock reading of an allowed check of its
key. -/
def Stamped (past : List Call) (limiter : Limiter) : Prop :=
  ∀ key bucket, limiter.store.snapshot? key = some bucket →
    ∃ call ∈ past, call.key = key ∧ call.decision.isAllowed = true ∧
      call.now = bucket.lastRefillMs

theorem stamped_start (policy : Policy) (clock : Clock) :
    (start policy clock).Stamped [] := by
  intro key bucket stored
  cases stored

section Stamped

variable {past : List Call} {limiter : Limiter}

/-- The bucket that a check leaves bears the reading of an earlier grant, or of this
check if it is one. -/
theorem Stamped.consume
    (stamped : limiter.Stamped past)
    (key : String) :
    let taken := (limiter.bucketFor key).take limiter.policy limiter.clock.nowMs
    (∃ call ∈ past, call.key = key ∧ call.decision.isAllowed = true ∧
        call.now = taken.1.lastRefillMs) ∨
      taken.2.isAllowed = true ∧
        taken.1.lastRefillMs = limiter.clock.nowMs := by
  intro taken
  obtain kept | ⟨restamped, allowed⟩ :=
    Bucket.stamp_take_eq_or_allowed limiter.policy (limiter.bucketFor key)
      limiter.clock.nowMs
  · -- The stamp that was kept is that of a new bucket, and then this check is
    -- allowed, or that of a stored one, and then the past knows its grant.
    cases stored : limiter.store.snapshot? key with
    | none =>
        have fresh := bucketFor_of_none stored
        right
        refine ⟨?_, ?_⟩
        · change ((limiter.bucketFor key).take _ _).2.isAllowed = true
          rw [fresh]
          exact Bucket.isAllowed_take_full ..
        · change ((limiter.bucketFor key).take _ _).1.lastRefillMs = _
          rw [kept, fresh]
          rfl
    | some bucket =>
        have own := bucketFor_of_some stored
        left
        obtain ⟨call, made, keyed, granted, stamp⟩ := stamped key bucket stored
        exact ⟨call, made, keyed, granted, by rw [stamp, kept, own]⟩
  · exact Or.inr ⟨allowed, restamped⟩

theorem Stamped.step
    (stamped : limiter.Stamped past)
    (event : Event) :
    (limiter.step event).1.Stamped (past ++ (limiter.call? event).toList) := by
  intro key bucket stored
  obtain before | ⟨rfl, rfl⟩ := snapshot?_step stored
  · obtain ⟨call, made, known⟩ := stamped key bucket before
    exact ⟨call, List.mem_append_left _ made, known⟩
  · obtain ⟨call, made, known⟩ | ⟨allowed, stamp⟩ := stamped.consume key
    · exact ⟨call, List.mem_append_left _ made, known⟩
    · refine ⟨_, List.mem_append_right _ (List.mem_singleton_self _), rfl, ?_,
        stamp.symm⟩
      rw [decision_consume]
      exact allowed

/-- A run keeps the stamps on record, its own grants included. -/
theorem Stamped.run
    (stamped : limiter.Stamped past)
    (events : List Event) :
    (limiter.run events).1.Stamped (past ++ limiter.calls events) := by
  induction events generalizing past limiter with
  | nil =>
      rw [calls, List.append_nil]
      exact stamped
  | cons event events inductionHypothesis =>
      rw [calls, ← List.append_assoc]
      exact inductionHypothesis (stamped.step event)

end Stamped

/-! ## Sweeps -/

/-- A sweep leaves the buckets that are worth less than their capacity, as they
were. -/
theorem snapshot?_evictIdle_eq_some_iff
    {limiter : Limiter}
    (atRest : limiter.store.AtRest)
    {key : String}
    {bucket : Bucket}
    (reaches : limiter.store.snapshot? key = some bucket →
      bucket.Reaches limiter.clock.nowMs) :
    limiter.evictIdle.1.store.snapshot? key = some bucket ↔
      limiter.store.snapshot? key = some bucket ∧
        bucket.tokens.toNat + limiter.policy.earned
            (limiter.clock.nowMs.toInt - bucket.lastRefillMs.toInt) <
          limiter.policy.capacity.toNat := by
  rw [snapshot?_evictIdle atRest, Option.filter_eq_some_iff]
  apply and_congr_right
  intro stored
  rw [Bool.not_eq_true',
    Bucket.isReplenished_eq_false_iff _ (reaches stored)]

/-- After any run, with the clock moving either way by signed words, a sweep leaves
exactly the buckets whose tokens and earnings do not reach the capacity, and
each of their keys has been granted a token within the time in which an empty
bucket fills up.  It reports by how many the tracked clients became fewer, and
a second sweep at the same instant finds nothing. -/
theorem tracked_after_sweep_of_recent_grant
    (policy : Policy)
    (clock : Clock)
    (events : List Event)
    (measurable : (start policy clock).Measurable events) :
    let reached := ((start policy clock).run events).1
    let swept := reached.evictIdle
    let now := reached.clock.nowMs.toInt
    (∀ key bucket,
        swept.1.store.snapshot? key = some bucket ↔
          reached.store.snapshot? key = some bucket ∧
            bucket.tokens.toNat + policy.refillRate.toNat *
                ((max 0 (now - bucket.lastRefillMs.toInt)).toNat /
                  policy.intervalMs.toNat) <
              policy.capacity.toNat) ∧
      (∀ key, swept.1.store.contains key = true →
        ∃ call ∈ (start policy clock).calls events,
          call.key = key ∧ call.decision.isAllowed = true ∧
            now - policy.intervalMs.toNat *
                (policy.capacity.toNat ⌈/⌉ policy.refillRate.toNat) <
              call.now.toInt) ∧
      swept.2 + swept.1.trackedKeys = reached.trackedKeys ∧
      swept.1.evictIdle.2 = 0 := by
  intro reached swept now
  have samePolicy : reached.policy = policy :=
    policy_run (start policy clock) events
  have settled : reached.Settled := (settled_start policy clock).run events
  have whole : (start policy clock).Follows Clock.Spans (events ++ []) := by
    rw [List.append_nil]
    exact follows_start measurable
  have follows : reached.Follows Clock.Spans [] := whole.run Clock.Spans.refl
  have reaches (key : String) (bucket : Bucket)
      (stored : reached.store.snapshot? key = some bucket) :
      bucket.Reaches reached.clock.nowMs :=
    follows.stored stored _ List.mem_cons_self
  have left key bucket :=
    snapshot?_evictIdle_eq_some_iff settled.atRest (reaches key bucket)
  rw [samePolicy] at left
  refine ⟨?exact, ?granted, removed_add_trackedKeys_evictIdle reached,
    removed_evictIdle_evictIdle reached⟩
  case exact =>
    intro key bucket
    have span : (max 0 (now - bucket.lastRefillMs.toInt)).toNat =
        (now - bucket.lastRefillMs.toInt).toNat := by omega
    rw [span, Nat.mul_comm]
    exact left key bucket
  case granted =>
    intro key tracked
    obtain ⟨slot, kept⟩ := Option.isSome_iff_exists.1 tracked
    have stored : swept.1.store.snapshot? key = some slot.bucket :=
      congrArg (Option.map Slot.bucket) kept
    obtain ⟨before, below⟩ := (left key slot.bucket).1 stored
    have stamped := (stamped_start policy clock).run events
    rw [List.nil_append] at stamped
    obtain ⟨call, made, keyed, allowed, stamp⟩ :=
      stamped key slot.bucket before
    refine ⟨call, made, keyed, allowed, ?_⟩
    -- Had the grant been earlier, the bucket would be worth its capacity by now.
    by_contra early
    have filled : (policy.intervalMs.toNat *
        (policy.capacity.toNat ⌈/⌉ policy.refillRate.toNat) : Int) ≤
          now - slot.bucket.lastRefillMs.toInt := by
      rw [← stamp]
      omega
    have full := policy.capacity_le_earned (by exact_mod_cast filled)
    change _ + policy.earned (now - _) < _ at below
    omega

/-- Two clients, one of which spends all its tokens and is refused in the end.  A
second later, which the clock reaches from ahead, its bucket is left, because it
was granted a token within two seconds, and the other one is swept away. -/
theorem one_of_two_tracked_after_sweep :
    let limiter := start .small { nowMs := 0 }
    let events : List Event :=
      [.consume "a", .consume "b", .consume "a", .consume "a", .consume "a",
        .setClock 1500, .setClock 1000]
    let reached := (limiter.run events).1
    let swept := reached.evictIdle
    limiter.Measurable events ∧
      reached.clock.nowMs = 1000 ∧
      swept.1.store.snapshot? "a" = some { tokens := 0, lastRefillMs := 0 } ∧
      swept.1.store.snapshot? "b" = none ∧
      (∃ call ∈ limiter.calls events,
        call.key = "a" ∧ call.decision.isAllowed = true ∧
          reached.clock.nowMs.toInt - 2000 < call.now.toInt) ∧
      swept.2 + swept.1.trackedKeys = 2 ∧ swept.1.evictIdle.2 = 0 := by
  have measurable : (start .small { nowMs := 0 }).Measurable
      [.consume "a", .consume "b", .consume "a", .consume "a", .consume "a",
        .setClock 1500, .setClock 1000] := by decide
  obtain ⟨exact, granted, removed, again⟩ :=
    tracked_after_sweep_of_recent_grant .small { nowMs := 0 } _ measurable
  refine ⟨measurable, by decide +kernel, ?left, by decide +kernel, ?grant,
    removed.trans (by decide +kernel), again⟩
  case left =>
    exact (exact "a" { tokens := 0, lastRefillMs := 0 }).2
      ⟨by decide +kernel, by decide +kernel⟩
  case grant =>
    have filling : (Policy.small.intervalMs.toNat *
        (Policy.small.capacity.toNat ⌈/⌉ Policy.small.refillRate.toNat) : Int) =
          2000 := by decide
    obtain ⟨call, made, keyed, allowed, recent⟩ :=
      granted "a" (by decide +kernel)
    rw [filling] at recent
    exact ⟨call, made, keyed, allowed, recent⟩

end Limiter
end Turnstile
