import Mathlib.Data.List.Induction
import Turnstile.Proofs.Refusals
import Turnstile.Proofs.Seconds

/-!
# The life of a bucket

A bucket lives from the check that creates it to the sweep or the clearing that
removes it, and the number of its creation tells it from any other that is stored
under the same key.  While it lives, its last refill is the instant of one of its
own checks and only moves on, whichever way the clock moves.

What a check answers is bounded by the policy and tied to the bucket that it
leaves.  Under a clock that never goes back the instants told to a client only
move on, too, from one life of its bucket to the next: a new bucket is stamped with
the present instant, and that is no earlier than any last refill.
-/

namespace Turnstile
namespace Bucket

/-- A refill does not move the last one back. -/
theorem le_lastRefillMs_take
    (policy : Policy)
    {bucket : Bucket}
    {now : Int64}
    (reaches : bucket.Reaches now) :
    bucket.lastRefillMs.toInt ≤
      (bucket.take policy now).1.lastRefillMs.toInt := by
  rw [lastRefillMs_take]
  by_cases due : (policy.intervalMs.toNat : Int) ≤
      now.toInt - bucket.lastRefillMs.toInt
  · rw [lastRefillMs_refill_of_le policy reaches due]
    omega
  · rw [refill_of_lt policy reaches (by omega)]

@[simp] theorem limit_take (policy : Policy) (bucket : Bucket) (now : Int64) :
    (bucket.take policy now).2.limit = policy.capacity := by
  rw [take]
  split <;> rfl

/-- What a check answers is bounded by the policy and tied to the bucket that it
leaves. -/
theorem decision_take_bounds
    {policy : Policy}
    {bucket taken : Bucket}
    {now : Int64}
    {decision : Decision}
    (bounded : bucket.tokens.toNat ≤ policy.capacity.toNat)
    (made : bucket.take policy now = (taken, decision)) :
    decision.limit = policy.capacity ∧
      (decision.isAllowed = true ∧ decision.remaining = taken.tokens ∧
          decision.remaining.toNat < policy.capacity.toNat ∧
          decision.retryAfterSeconds = 0 ∨
        decision.isAllowed = false ∧ decision.remaining = 0 ∧
          1 ≤ decision.retryAfterSeconds.toNat ∧
          decision.retryAfterSeconds.toNat ≤
            policy.intervalMs.toNat ⌈/⌉ (1000 : Nat)) := by
  have limit := limit_take policy bucket now
  have remaining := remaining_take policy bucket now
  have spent := toNat_tokens_take_lt policy bounded now
  have wait := @retryAfterSeconds_take_bounds policy bucket now
  rw [made] at limit remaining spent wait
  refine ⟨limit, ?_⟩
  cases decided : decision.isAllowed with
  | true =>
      left
      refine ⟨rfl, remaining, ?_, Decision.retryAfterSeconds_of_allowed decided⟩
      rw [remaining]
      exact spent
  | false =>
      right
      exact ⟨rfl, Decision.remaining_of_refused decided, wait decided⟩

end Bucket

namespace Limiter

/-- The slot stored under a key after a run. -/
def slotAfter
    (limiter : Limiter)
    (events : List Event)
    (key : String) : Option Slot :=
  (limiter.run events).1.store.slots.get? key

theorem run_concat (limiter : Limiter) (events : List Event) (event : Event) :
    (limiter.run (events ++ [event])).1 =
      ((limiter.run events).1.step event).1 :=
  limiter.run_append events [event]

section Slot

variable {limiter : Limiter} {key : String}

theorem slotFor_of_some
    {slot : Slot}
    (stored : limiter.store.slots.get? key = some slot) :
    limiter.slotFor key = slot :=
  Store.slotFor_of_some stored _

theorem slotFor_of_none (missing : limiter.store.slots.get? key = none) :
    limiter.slotFor key =
      { birth := limiter.store.births
        bucket := .full limiter.policy.capacity limiter.clock.nowMs
        handles := 0 } := by
  rw [slotFor, Store.slotFor, missing, Option.getD_none]

end Slot

/-! ## The last refill -/

/-- The bucket that a check leaves bears the instant of the check, or the stamp of the
bucket that was stored before. -/
theorem stamp_consume (limiter : Limiter) (key : String) :
    ((limiter.bucketFor key).take limiter.policy
        limiter.clock.nowMs).1.lastRefillMs = limiter.clock.nowMs ∨
      ∃ slot, limiter.store.slots.get? key = some slot ∧
        limiter.slotFor key = slot ∧
        ((limiter.bucketFor key).take limiter.policy
          limiter.clock.nowMs).1.lastRefillMs = slot.bucket.lastRefillMs := by
  obtain stamped | kept := Bucket.lastRefillMs_take_or_eq limiter.policy
    (limiter.bucketFor key) limiter.clock.nowMs
  · exact Or.inl stamped
  · rw [kept]
    cases found : limiter.store.slots.get? key with
    | none =>
        left
        rw [← bucket_slotFor, slotFor_of_none found]
        rfl
    | some slot =>
        right
        refine ⟨slot, rfl, slotFor_of_some found, ?_⟩
        rw [← bucket_slotFor, slotFor_of_some found]

/-- The last refill of a stored bucket is the clock reading of a check that has left
this very bucket. -/
theorem exists_stamping_check
    (policy : Policy)
    (clock : Clock)
    {events : List Event}
    {key : String}
    {slot : Slot}
    (stored : (start policy clock).slotAfter events key = some slot) :
    ∃ earlier later made,
      events = earlier ++ .consume key :: later ∧
        ((start policy clock).run earlier).1.clock.nowMs =
          slot.bucket.lastRefillMs ∧
        (start policy clock).slotAfter (earlier ++ [.consume key]) key =
          some made ∧
        made.birth = slot.birth := by
  induction events using List.reverseRecOn generalizing slot with
  | nil => cases stored
  | append_singleton events event inductionHypothesis =>
      -- Only a check of the key writes the slot, and either stamps it or leaves the
      -- stamp, of which the earlier events know.
      have present := stored
      rw [slotAfter, run_concat] at present
      obtain before | ⟨rfl, birth, -, left⟩ := get?_step present
      · obtain ⟨earlier, later, made, rfl, known⟩ := inductionHypothesis before
        exact ⟨earlier, later ++ [event], made, by simp, known⟩
      · obtain stamped | ⟨found, before, same, kept⟩ :=
          stamp_consume ((start policy clock).run events).1 key
        · rw [← left] at stamped
          exact ⟨events, [], slot, rfl, stamped.symm, stored, rfl⟩
        · obtain ⟨earlier, later, made, rfl, now, known, born⟩ :=
            inductionHypothesis before
          rw [← left] at kept
          refine ⟨earlier, later ++ [.consume key], made, by simp,
            now.trans kept.symm, known, ?_⟩
          rw [born, birth, same]

/-- Whether every stored slot was counted when it was created. -/
def Numbered (limiter : Limiter) : Prop :=
  ∀ key slot, limiter.store.slots.get? key = some slot →
    slot.birth < limiter.store.births

theorem births_le_step (limiter : Limiter) (event : Event) :
    limiter.store.births ≤ (limiter.step event).1.store.births := by
  cases event with
  | consume key =>
      rw [step_consume, store_consume]
      exact Nat.le_add_right ..
  | evictIdle => exact Nat.le_refl _
  | clear => exact Nat.le_refl _
  | setClock nowMs => exact Nat.le_refl _

theorem numbered_start (policy : Policy) (clock : Clock) :
    (start policy clock).Numbered := by
  intro key slot stored
  cases stored

theorem Numbered.step
    {limiter : Limiter}
    (numbered : limiter.Numbered)
    (event : Event) : (limiter.step event).1.Numbered := by
  intro key slot stored
  have counted := limiter.births_le_step event
  obtain before | ⟨rfl, birth, -, -⟩ := get?_step stored
  · exact (numbered key slot before).trans_le counted
  · rw [birth]
    cases found : limiter.store.slots.get? key with
    | none =>
        rw [slotFor_of_none found, step_consume, store_consume, found]
        exact Nat.lt_succ_self _
    | some old =>
        rw [slotFor_of_some found]
        exact (numbered key old found).trans_le counted

theorem Numbered.run
    {limiter : Limiter}
    (numbered : limiter.Numbered)
    (events : List Event) : (limiter.run events).1.Numbered := by
  induction events generalizing limiter with
  | nil => exact numbered
  | cons event events inductionHypothesis =>
      exact inductionHypothesis (numbered.step event)

/-- Whether the slot that one creation has stored under a key is gone, or was last
refilled at an instant or later. -/
structure Ages
    (key : String)
    (birth : Nat)
    (instant : Int)
    (limiter : Limiter) : Prop where
  created : birth < limiter.store.births
  refilled : ∀ slot, limiter.store.slots.get? key = some slot →
    slot.birth = birth → instant ≤ slot.bucket.lastRefillMs.toInt

section Ages

variable {key : String} {birth : Nat} {instant : Int} {limiter : Limiter}

/-- A slot ages: it is not refilled before its last refill, nor created again. -/
theorem Ages.step
    (ages : limiter.Ages key birth instant)
    {event : Event}
    {events : List Event}
    (follows : limiter.Follows Clock.Spans (event :: events)) :
    (limiter.step event).1.Ages key birth instant where
  created := ages.created.trans_le (limiter.births_le_step event)
  refilled := by
    intro slot stored same
    obtain before | ⟨rfl, birth, -, left⟩ := get?_step stored
    · exact ages.refilled slot before same
    · rw [birth] at same
      cases found : limiter.store.slots.get? key with
      | none =>
          -- A slot created now bears a number that was not given before.
          rw [slotFor_of_none found] at same
          exact absurd same ages.created.ne'
      | some old =>
          rw [slotFor_of_some found] at same
          have reaches : (limiter.bucketFor key).Reaches limiter.clock.nowMs :=
            follows.bucketFor_now Clock.Spans.refl key
          have later := Bucket.le_lastRefillMs_take limiter.policy reaches
          have since := ages.refilled old found same
          rw [← left] at later
          rw [← slotFor_of_some found, bucket_slotFor] at since
          exact since.trans later

theorem Ages.run
    (ages : limiter.Ages key birth instant)
    {events : List Event}
    (follows : limiter.Follows Clock.Spans events) :
    (limiter.run events).1.Ages key birth instant := by
  induction events generalizing limiter with
  | nil => exact ages
  | cons event events inductionHypothesis =>
      exact inductionHypothesis (ages.step follows)
        (follows.step Clock.Spans.refl)

end Ages

/-- During its life a bucket is not refilled before its last refill. -/
theorem lastRefillMs_le_of_same_birth
    {policy : Policy}
    {clock : Clock}
    {earlier later : List Event}
    (measurable : (start policy clock).Measurable (earlier ++ later))
    {key : String}
    {before after : Slot}
    (storedBefore : (start policy clock).slotAfter earlier key = some before)
    (storedAfter :
      (start policy clock).slotAfter (earlier ++ later) key = some after)
    (same : before.birth = after.birth) :
    before.bucket.lastRefillMs.toInt ≤ after.bucket.lastRefillMs.toInt := by
  have follows := (follows_start measurable).run Clock.Spans.refl
  have numbered := (numbered_start policy clock).run earlier
  have ages : ((start policy clock).run earlier).1.Ages key before.birth
      before.bucket.lastRefillMs.toInt := by
    refine ⟨numbered key before storedBefore, ?_⟩
    intro slot stored _
    obtain rfl := Option.some.inj (stored.symm.trans storedBefore)
    exact Int.le_refl _
  rw [slotAfter, run_append] at storedAfter
  exact (ages.run follows).refilled after storedAfter same.symm

/-! ## The instants told -/

/-- The second that a key would be told if nothing were refilled: that of its bucket, or
of a new one. -/
def pendingReset (limiter : Limiter) (key : String) : UInt64 :=
  (limiter.bucketFor key).resetSeconds limiter.policy

section PendingReset

variable {limiter : Limiter} {event : Event} {events : List Event}

/-- A check tells the second that is pending after it. -/
theorem resetSeconds_consume (limiter : Limiter) (key : String) :
    (limiter.consume key).2.resetSeconds =
      (limiter.step (.consume key)).1.pendingReset key := by
  have left : (limiter.step (.consume key)).1.bucketFor key =
      ((limiter.bucketFor key).take limiter.policy
        limiter.clock.nowMs).1 := by
    rw [step_consume]
    exact bucketFor_of_some (snapshot?_consume_self limiter key)
  rw [decision_consume, Bucket.resetSeconds_take, pendingReset, left,
    policy_step]

/-- No event brings the pending second forward. -/
theorem pendingReset_le_step
    (follows : limiter.Follows Clock.Precedes (event :: events))
    (key : String) :
    limiter.pendingReset key ≤ (limiter.step event).1.pendingReset key := by
  have past := follows.bucketFor Clock.Precedes.refl key
  have present : (limiter.step event).1.clock.nowMs ∈
      limiter.readings (event :: events) :=
    (limiter.readings_step_sublist event events).subset List.mem_cons_self
  rw [pendingReset, pendingReset, policy_step]
  apply Bucket.resetSeconds_mono
  cases found : (limiter.step event).1.store.snapshot? key with
  | none =>
      -- The bucket is gone: what is pending is that of a new one, stamped now.
      rw [bucketFor_of_none found]
      exact (past _ present).1
  | some bucket =>
      rw [bucketFor_of_some found]
      obtain before | ⟨rfl, rfl⟩ := snapshot?_step found
      · rw [bucketFor_of_some before]
      · exact Bucket.le_lastRefillMs_take _ (past _ List.mem_cons_self).spans

/-- The checks of a key to come are told the pending second or a later one. -/
theorem pendingReset_le_of_mem_calls
    (follows : limiter.Follows Clock.Precedes events)
    {call : Call}
    (member : call ∈ limiter.calls events) :
    limiter.pendingReset call.key ≤ call.decision.resetSeconds := by
  induction events generalizing limiter with
  | nil => cases member
  | cons event events inductionHypothesis =>
      have step := pendingReset_le_step follows call.key
      have tail := inductionHypothesis (follows.step Clock.Precedes.refl)
      rw [calls, List.mem_append] at member
      obtain present | after := member
      · obtain ⟨rfl, -, decided⟩ := of_mem_call? present
        rw [decided, resetSeconds_consume]
        exact step
      · exact UInt64.le_trans step (tail after)

/-- The seconds told to a key never go back. -/
theorem pairwise_resetSeconds
    (follows : limiter.Follows Clock.Precedes events) :
    (limiter.calls events).Pairwise fun first second =>
      first.key = second.key →
        first.decision.resetSeconds ≤ second.decision.resetSeconds := by
  induction events generalizing limiter with
  | nil => exact List.Pairwise.nil
  | cons event events inductionHypothesis =>
      have nextFollows := follows.step Clock.Precedes.refl
      have tail := inductionHypothesis nextFollows
      rw [calls, List.pairwise_append]
      refine ⟨?_, tail, ?_⟩
      · cases limiter.call? event <;> simp
      · intro first made second member same
        obtain ⟨rfl, -, decided⟩ := of_mem_call? made
        have told := pendingReset_le_of_mem_calls nextFollows member
        rw [← same] at told
        rw [decided, resetSeconds_consume]
        exact told

end PendingReset

/-! ## Every run -/

/-- After a check of a key its bucket is the one that the check left. -/
theorem exists_slotAfter_consume
    (limiter : Limiter)
    (events : List Event)
    (key : String) :
    ∃ slot, limiter.slotAfter (events ++ [.consume key]) key = some slot ∧
      slot.bucket =
        (((limiter.run events).1.bucketFor key).take (limiter.run events).1.policy
          (limiter.run events).1.clock.nowMs).1 := by
  refine ⟨{ (limiter.run events).1.slotFor key with bucket := _ }, ?_, rfl⟩
  rw [slotAfter, run_concat, step_consume, slots_consume, Table.get?_put_self]

/-- What holds at every point of every run, with the clock moving either way by signed
words.  A stored bucket has spent a token; its last refill is the clock reading of
a check that has left this very bucket, and during its life that has never gone
back.  A check answers with the capacity; it is allowed with the tokens that it
leaves and no wait, or denied with no tokens and a wait of one second at least and
an interval at most.  If the clock never goes back, neither do the seconds told to
a key, across sweeps and clearings. -/
theorem bounds_of_every_run
    (policy : Policy)
    (clock : Clock)
    (events : List Event)
    (measurable : (start policy clock).Measurable events) :
    (∀ key slot, (start policy clock).slotAfter events key = some slot →
      slot.bucket.tokens.toNat ≤ policy.capacity.toNat - 1 ∧
        (∃ earlier later made,
          events = earlier ++ .consume key :: later ∧
            ((start policy clock).run earlier).1.clock.nowMs =
              slot.bucket.lastRefillMs ∧
            (start policy clock).slotAfter (earlier ++ [.consume key]) key =
              some made ∧
            made.birth = slot.birth) ∧
        ∀ earlier later before,
          events = earlier ++ later →
          (start policy clock).slotAfter earlier key = some before →
          before.birth = slot.birth →
          before.bucket.lastRefillMs.toInt ≤
            slot.bucket.lastRefillMs.toInt) ∧
      (∀ earlier key later decision,
        events = earlier ++ .consume key :: later →
        (((start policy clock).run earlier).1.consume key).2 = decision →
        decision.limit = policy.capacity ∧
          (decision.isAllowed = true ∧
              (∃ slot,
                (start policy clock).slotAfter (earlier ++ [.consume key]) key =
                  some slot ∧
                decision.remaining = slot.bucket.tokens) ∧
              decision.remaining.toNat ≤ policy.capacity.toNat - 1 ∧
              decision.retryAfterSeconds = 0 ∨
            decision.isAllowed = false ∧ decision.remaining = 0 ∧
              1 ≤ decision.retryAfterSeconds.toNat ∧
              decision.retryAfterSeconds.toNat ≤
                policy.intervalMs.toNat ⌈/⌉ (1000 : Nat))) ∧
      ((start policy clock).Timely events →
        ((start policy clock).calls events).Pairwise fun first second =>
          first.key = second.key →
            first.decision.resetSeconds ≤ second.decision.resetSeconds) := by
  refine ⟨?stored, ?decided,
    fun timely => pairwise_resetSeconds (follows_start timely)⟩
  case stored =>
    intro key slot stored
    have settled := (settled_start policy clock).run events
    have spent := settled.spent (congrArg (Option.map Slot.bucket) stored)
    rw [policy_run] at spent
    refine ⟨Nat.le_sub_one_of_lt spent, exists_stamping_check policy clock stored,
      ?_⟩
    rintro earlier later before rfl storedBefore same
    exact lastRefillMs_le_of_same_birth measurable storedBefore stored same
  case decided =>
    rintro earlier key later decision - decided
    have settled := (settled_start policy clock).run earlier
    obtain ⟨slot, stored, left⟩ :=
      exists_slotAfter_consume (start policy clock) earlier key
    rw [decision_consume] at decided
    obtain ⟨limit, bounds⟩ := Bucket.decision_take_bounds
      (settled.tokens_bucketFor_le key) (Prod.ext left.symm decided)
    rw [policy_run] at limit bounds
    refine ⟨limit, bounds.imp_left ?_⟩
    rintro ⟨allowed, remaining, below, noWait⟩
    exact ⟨allowed, ⟨slot, stored, remaining⟩, Nat.le_sub_one_of_lt below, noWait⟩

/-- Three lives of one bucket, ended by a sweep and by a clearing, with a refusal in the
first of them that asks for two of at most three seconds.  The second life and the
third are told the same second. -/
theorem bounds_across_three_lives :
    let limiter := start .slow { nowMs := 400 }
    let events : List Event :=
      [.consume "a", .setClock 1000, .consume "a", .setClock 2900, .evictIdle,
        .consume "a", .clear, .setClock 3100, .consume "a"]
    let last : Slot :=
      { birth := 2, bucket := { tokens := 0, lastRefillMs := 3100 }, handles := 0 }
    limiter.Measurable events ∧ limiter.Timely events ∧
      .evicted 1 ∈ (limiter.run events).2 ∧
      limiter.slotAfter events "a" = some last ∧
      last.bucket.tokens.toNat ≤ 1 - 1 ∧
      (∃ earlier later made,
        events = earlier ++ .consume "a" :: later ∧
          (limiter.run earlier).1.clock.nowMs = 3100 ∧
          limiter.slotAfter (earlier ++ [.consume "a"]) "a" = some made ∧
          made.birth = 2) ∧
      (limiter.calls events).map (·.decision) =
        [.allowed 1 0 2, .denied 1 2 2, .allowed 1 0 5, .allowed 1 0 5] ∧
      2 ≤ Policy.slow.intervalMs.toNat ⌈/⌉ (1000 : Nat) ∧
      (limiter.calls events).Pairwise fun first second =>
        first.key = second.key →
          first.decision.resetSeconds ≤ second.decision.resetSeconds := by
  obtain ⟨stored, decided, told⟩ :=
    bounds_of_every_run .slow { nowMs := 400 }
      [.consume "a", .setClock 1000, .consume "a", .setClock 2900, .evictIdle,
        .consume "a", .clear, .setClock 3100, .consume "a"]
      (by decide)
  obtain ⟨spent, stamped, -⟩ := stored "a"
    { birth := 2, bucket := { tokens := 0, lastRefillMs := 3100 }, handles := 0 }
    (by decide +kernel)
  obtain ⟨-, ⟨allowed, -⟩ | ⟨-, -, -, wait⟩⟩ :=
    decided [.consume "a", .setClock 1000] "a" _ (.denied 1 2 2) rfl
      (by decide +kernel)
  · cases allowed
  · exact ⟨by decide, by decide, by decide +kernel, by decide +kernel, spent,
      stamped, by decide +kernel, wait, told (by decide)⟩

end Limiter
end Turnstile
