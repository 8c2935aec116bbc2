import Turnstile.Proofs.Refusals
import Turnstile.Proofs.Seconds

/-!
# The wait that a refusal asks for

A refused check says how many seconds are left of the running interval, a begun
second counted as a whole one.  That many seconds are always enough, and no
smaller number ever is.

Until the interval is over nothing changes what a check of the key finds: other
refused checks leave no trace, and a sweep takes no empty bucket whose interval
is still running.  Afterwards the bucket may be swept away, but then the key is
as well off with a new one.  So a limiter stands by a refusal until it grants
the key a token, and it grants one exactly when the interval is over.
-/

namespace Turnstile

namespace Bucket

/-- A refused check has found the bucket empty. -/
theorem tokens_of_refused
    {policy : Policy}
    {bucket : Bucket}
    {now : Int64}
    (refused : (bucket.take policy now).2.isAllowed = false) :
    bucket.tokens.toNat = 0 := by
  have unchanged := refill_of_refused refused
  rw [isAllowed_take, decide_eq_false_iff_not, available, unchanged] at refused
  omega

/-- A check that finds a bucket empty is allowed as soon as an interval is over. -/
theorem isAllowed_take_of_empty
    (policy : Policy)
    {bucket : Bucket}
    {now : Int64}
    (reaches : bucket.Reaches now)
    (empty : bucket.tokens.toNat = 0) :
    (bucket.take policy now).2.isAllowed =
      decide ((policy.intervalMs.toNat : Int) ≤
        now.toInt - bucket.lastRefillMs.toInt) := by
  rw [isAllowed_take]
  apply decide_eq_decide.2
  constructor
  · intro positive
    by_contra early
    rw [available_of_sub_lt policy reaches (by omega)] at positive
    omega
  · intro due
    exact available_pos_of_due policy
      ((interval_le_elapsed_iff policy reaches).2 due)

/-- The eviction test waits for the interval of an empty bucket. -/
theorem due_of_isReplenished
    (policy : Policy)
    {bucket : Bucket}
    {now : Int64}
    (reaches : bucket.Reaches now)
    (empty : bucket.tokens.toNat = 0)
    (replenished : bucket.isReplenished policy now = true) :
    (policy.intervalMs.toNat : Int) ≤
      now.toInt - bucket.lastRefillMs.toInt := by
  have positive := policy.capacity_pos
  rw [isReplenished_iff_available policy reaches (by omega)] at replenished
  by_contra early
  rw [available_of_sub_lt policy reaches (by omega)] at replenished
  omega

/-- The seconds that a refused check asks for are enough for the rest of the
interval, and one second less is not. -/
theorem wait_of_refused
    {policy : Policy}
    {bucket : Bucket}
    {now : Int64}
    (reaches : bucket.Reaches now)
    (ordered : bucket.lastRefillMs.toInt ≤ now.toInt)
    (refused : (bucket.take policy now).2.isAllowed = false) :
    let left := policy.intervalMs.toNat -
      (now.toInt - bucket.lastRefillMs.toInt)
    let seconds := (bucket.take policy now).2.retryAfterSeconds.toNat
    left ≤ 1000 * (seconds : Int) ∧ 1000 * ((seconds : Int) - 1) < left := by
  have elapsed := toInt_elapsed reaches
  have running := isAllowed_take_of_empty policy reaches
    (tokens_of_refused refused)
  rw [refused, eq_comm, decide_eq_false_iff_not] at running
  have seconds : (retryAfterSeconds policy (bucket.elapsed now)).toNat = _ :=
    toNat_retryAfterSeconds policy (elapsed_nonneg bucket now)
  dsimp only
  rw [retryAfterSeconds_take refused]
  omega

end Bucket

namespace Limiter

/-- The checks of a run are made at its present clock reading or later. -/
theorem nowMs_le_of_mem_calls
    {limiter : Limiter}
    {events : List Event}
    (timely : limiter.Timely events)
    {call : Call}
    (member : call ∈ limiter.calls events) :
    limiter.clock.nowMs.toInt ≤ call.now.toInt := by
  obtain same | later := List.mem_cons.1 (now_mem_readings member)
  · rw [same]
  · exact ((List.pairwise_cons.1 timely).1 call.now later).1

/-- Whether a limiter stands by the refusal of a key: it stores the bucket that
was refused, or has removed it after its interval was over. -/
def StandsBy (limiter : Limiter) (key : String) (bucket : Bucket) : Prop :=
  limiter.store.snapshot? key = some bucket ∨
    limiter.store.snapshot? key = none ∧
      (limiter.policy.intervalMs.toNat : Int) ≤
        limiter.clock.nowMs.toInt - bucket.lastRefillMs.toInt

section StandsBy

variable {limiter : Limiter} {key : String} {bucket : Bucket}

/-- A limiter that stands by a refusal grants the key a token exactly if the
interval is over. -/
theorem StandsBy.isAllowed_consume
    (standsBy : limiter.StandsBy key bucket)
    (empty : bucket.tokens.toNat = 0)
    (reaches : bucket.Reaches limiter.clock.nowMs) :
    (limiter.consume key).2.isAllowed =
      decide ((limiter.policy.intervalMs.toNat : Int) ≤
        limiter.clock.nowMs.toInt - bucket.lastRefillMs.toInt) := by
  rw [decision_consume, bucketFor]
  obtain stored | ⟨gone, due⟩ := standsBy
  · rw [stored, Option.getD_some]
    exact Bucket.isAllowed_take_of_empty _ reaches empty
  · rw [gone, Option.getD_none, Bucket.isAllowed_take_full]
    exact (decide_eq_true due).symm

/-- Another refusal of the key, and any check of another key, leaves it at that. -/
theorem StandsBy.consume
    (standsBy : limiter.StandsBy key bucket)
    {checked : String}
    (ungranted : ¬(checked = key ∧ (limiter.consume key).2.isAllowed = true)) :
    (limiter.consume checked).1.StandsBy key bucket := by
  by_cases same : checked = key
  · subst same
    have refused : (limiter.consume checked).2.isAllowed = false :=
      Bool.eq_false_of_not_eq_true fun granted => ungranted ⟨rfl, granted⟩
    rw [decision_consume] at refused
    left
    rw [snapshot?_consume_self, Bucket.take_of_refused refused]
    obtain stored | ⟨gone, -⟩ := standsBy
    · rw [bucketFor_of_some stored]
    · rw [bucketFor_of_none gone, Bucket.isAllowed_take_full] at refused
      cases refused
  · rw [StandsBy, snapshot?_consume, if_neg (Ne.symm same)]
    exact standsBy

/-- A sweep takes the bucket only after its interval is over. -/
theorem StandsBy.evictIdle
    (standsBy : limiter.StandsBy key bucket)
    (atRest : limiter.store.AtRest)
    (empty : bucket.tokens.toNat = 0)
    (reaches : bucket.Reaches limiter.clock.nowMs) :
    limiter.evictIdle.1.StandsBy key bucket := by
  rw [StandsBy, snapshot?_evictIdle atRest]
  obtain stored | ⟨gone, due⟩ := standsBy
  · rw [stored]
    by_cases replenished :
        bucket.isReplenished limiter.policy limiter.clock.nowMs = true
    · right
      refine ⟨by simp [Option.filter, replenished], ?_⟩
      exact Bucket.due_of_isReplenished _ reaches empty replenished
    · left
      simp [Option.filter, replenished]
  · right
    rw [gone]
    exact ⟨rfl, due⟩

/-- An interval that is over stays over while the clock moves on. -/
theorem StandsBy.setClock
    (standsBy : limiter.StandsBy key bucket)
    {nowMs : Int64}
    (ordered : limiter.clock.nowMs.toInt ≤ nowMs.toInt) :
    (limiter.step (.setClock nowMs)).1.StandsBy key bucket := by
  obtain stored | ⟨gone, due⟩ := standsBy
  · exact Or.inl stored
  · exact Or.inr ⟨gone, due.trans (Int.sub_le_sub_right ordered _)⟩

/-- Until a limiter that stands by a refusal has granted the key a token, it
refuses every check of the key before the interval is over and grants every one
afterwards. -/
theorem StandsBy.calls
    (standsBy : limiter.StandsBy key bucket)
    (empty : bucket.tokens.toNat = 0)
    (atRest : limiter.store.AtRest)
    {events : List Event}
    (timely : limiter.Timely events)
    (ahead : ∀ reading ∈ limiter.readings events,
      Clock.Precedes bucket.lastRefillMs reading)
    (uncleared : .clear ∉ events)
    {before after : List Call}
    {call : Call}
    (made : limiter.calls events = before ++ call :: after)
    (keyed : call.key = key) :
    (call.now.toInt - bucket.lastRefillMs.toInt <
          limiter.policy.intervalMs.toNat →
        call.decision.isAllowed = false) ∧
      ((limiter.policy.intervalMs.toNat : Int) ≤
          call.now.toInt - bucket.lastRefillMs.toInt →
        call.decision.isAllowed = true ∨
          ∃ other ∈ before, other.key = key ∧
            other.decision.isAllowed = true) := by
  induction events generalizing limiter before with
  | nil => cases List.append_ne_nil_of_right_ne_nil _ (by simp) made.symm
  | cons event events inductionHypothesis =>
      rw [List.mem_cons, not_or] at uncleared
      have reaches : bucket.Reaches limiter.clock.nowMs :=
        (ahead _ List.mem_cons_self).spans
      have shorter := limiter.readings_step_sublist event events
      -- What the induction hypothesis says once the event is known to keep the
      -- limiter standing by.
      have onward
          (stays : (limiter.step event).1.StandsBy key bucket)
          {between : List Call}
          (rest : (limiter.step event).1.calls events =
            between ++ call :: after) :=
        inductionHypothesis stays (atRest_step atRest event)
          (timely.sublist shorter)
          (fun reading member => ahead reading (shorter.subset member))
          uncleared.2 rest
      cases event with
      | consume checked =>
          have decided := standsBy.isAllowed_consume empty reaches
          rw [calls_consume] at made
          simp only [step_consume] at shorter onward
          cases before with
          | nil =>
              obtain ⟨rfl, -⟩ := List.cons.inj made
              obtain rfl : checked = key := keyed
              dsimp only
              rw [decided]
              constructor
              · intro early
                exact decide_eq_false (Int.not_le.2 early)
              · intro due
                exact Or.inl (decide_eq_true due)
          | cons first before =>
              obtain ⟨rfl, rest⟩ := List.cons.inj made
              by_cases granted : checked = key ∧
                  (limiter.consume key).2.isAllowed = true
              · obtain ⟨rfl, allowed⟩ := granted
                have due := of_decide_eq_true (decided.symm.trans allowed)
                have later : limiter.clock.nowMs.toInt ≤ call.now.toInt := by
                  have member : call ∈ (limiter.consume checked).1.calls events :=
                    rest ▸ List.mem_append_right _ List.mem_cons_self
                  exact nowMs_le_of_mem_calls (timely.sublist shorter) member
                constructor
                · intro early
                  omega
                · intro _
                  refine Or.inr ⟨_, List.mem_cons_self, rfl, ?_⟩
                  dsimp only
                  exact allowed
              · obtain ⟨early, late⟩ := onward (standsBy.consume granted) rest
                refine ⟨early, fun due => (late due).imp_right ?_⟩
                rintro ⟨other, member, grant⟩
                exact ⟨other, List.mem_cons_of_mem _ member, grant⟩
      | evictIdle =>
          rw [calls_cons_of_call?_eq_none rfl] at made
          exact onward (standsBy.evictIdle atRest empty reaches) made
      | clear => exact absurd rfl uncleared.1
      | setClock nowMs =>
          have ordered : limiter.clock.nowMs.toInt ≤ nowMs.toInt :=
            ((List.pairwise_cons.1 timely).1 nowMs List.mem_cons_self).1
          rw [calls_cons_of_call?_eq_none rfl] at made
          exact onward (standsBy.setClock ordered) made

end StandsBy

/-! ## From a refusal on -/

section Refused

variable {limiter : Limiter} {key : String}

/-- A limiter stands by a refusal that it has just given. -/
theorem standsBy_of_refused
    (refused : (limiter.consume key).2.isAllowed = false) :
    (limiter.consume key).1.StandsBy key (limiter.bucketFor key) := by
  rw [decision_consume] at refused
  left
  rw [snapshot?_consume_self, Bucket.take_of_refused refused]

/-- The milliseconds from a refusal to the end of the interval, against the
seconds that the refusal asks for. -/
theorem wait_of_refused
    {later : List Event}
    (follows : limiter.Follows Clock.Precedes later)
    (refused : (limiter.consume key).2.isAllowed = false) :
    let left := limiter.policy.intervalMs.toNat -
      (limiter.clock.nowMs.toInt -
        (limiter.bucketFor key).lastRefillMs.toInt)
    let retryAfter := (limiter.consume key).2.retryAfterSeconds.toNat
    left ≤ 1000 * (retryAfter : Int) ∧
      1000 * ((retryAfter : Int) - 1) < left := by
  have precedes := follows.bucketFor_now Clock.Precedes.refl key
  rw [decision_consume] at refused ⊢
  exact Bucket.wait_of_refused precedes.spans precedes.1 refused

/-- After a refusal every check of the key is refused up to one second before the
wait is over, and from its end on one is allowed. -/
theorem calls_of_refused
    (atRest : limiter.store.AtRest)
    {later : List Event}
    (follows : limiter.Follows Clock.Precedes (.consume key :: later))
    (uncleared : .clear ∉ later)
    (refused : (limiter.consume key).2.isAllowed = false)
    {before after : List Call}
    {call : Call}
    (made : (limiter.consume key).1.calls later = before ++ call :: after)
    (keyed : call.key = key) :
    let retryAfter := (limiter.consume key).2.retryAfterSeconds.toNat
    let waited := call.now.toInt - limiter.clock.nowMs.toInt
    (waited ≤ 1000 * ((retryAfter : Int) - 1) →
        call.decision.isAllowed = false) ∧
      (1000 * (retryAfter : Int) ≤ waited →
        call.decision.isAllowed = true ∨
          ∃ other ∈ before, other.key = key ∧
            other.decision.isAllowed = true) := by
  have empty := Bucket.tokens_of_refused (limiter.decision_consume key ▸ refused)
  have wait := wait_of_refused follows refused
  obtain ⟨early, late⟩ := (standsBy_of_refused refused).calls empty
    (atRest_step atRest (.consume key)) (follows.step Clock.Precedes.refl).readings
    (follows.bucketFor Clock.Precedes.refl key) uncleared made keyed
  have policy : (limiter.consume key).1.policy = limiter.policy := rfl
  rw [policy] at early late
  constructor
  · intro waited
    apply early
    omega
  · intro waited
    apply late
    omega

/-- Whoever asks again after some whole seconds is granted a token if and only if
these are at least the seconds that the refusal asked for. -/
theorem isAllowed_after_wait
    {reading : Int64}
    (follows : limiter.Follows Clock.Precedes
      [.consume key, .setClock reading])
    (refused : (limiter.consume key).2.isAllowed = false)
    {seconds : Nat}
    (waited : reading.toInt = limiter.clock.nowMs.toInt + 1000 * seconds) :
    (((limiter.consume key).1.step (.setClock reading)).1.consume
        key).2.isAllowed =
      decide ((limiter.consume key).2.retryAfterSeconds.toNat ≤ seconds) := by
  have empty := Bucket.tokens_of_refused (limiter.decision_consume key ▸ refused)
  have wait := wait_of_refused follows refused
  have ordered : limiter.clock.nowMs.toInt ≤ reading.toInt := by omega
  have precedes := follows.bucketFor Clock.Precedes.refl key reading
    (List.mem_cons_of_mem _ List.mem_cons_self)
  have stays := (standsBy_of_refused refused).setClock ordered
  rw [stays.isAllowed_consume empty precedes.spans]
  apply decide_eq_decide.2
  change (limiter.policy.intervalMs.toNat : Int) ≤ reading.toInt - _ ↔ _
  omega

end Refused

/-- The wait that a refusal asks for is exact.  Under a clock that never goes
back, and as long as the store is not cleared, every check of the key is refused
up to one second before the wait is over, and from its end on every one is
allowed unless one since the refusal was allowed already.  So the seconds asked
for are the least that are enough: a client that asks again after some whole
seconds is granted a token if and only if these are no fewer. -/
theorem refused_until_retryAfter
    (policy : Policy)
    (clock : Clock)
    (earlier : List Event)
    (key : String)
    (refused : (((start policy clock).run earlier).1.consume key).2.isAllowed =
      false) :
    let limiter := ((start policy clock).run earlier).1
    let retryAfter := (limiter.consume key).2.retryAfterSeconds.toNat
    (∀ later, (start policy clock).Timely (earlier ++ .consume key :: later) →
        .clear ∉ later →
        ∀ before call after,
          (limiter.consume key).1.calls later = before ++ call :: after →
          call.key = key →
          let waited := call.now.toInt - limiter.clock.nowMs.toInt
          (waited ≤ 1000 * ((retryAfter : Int) - 1) →
              call.decision.isAllowed = false) ∧
            (1000 * (retryAfter : Int) ≤ waited →
              call.decision.isAllowed = true ∨
                ∃ other ∈ before, other.key = key ∧
                  other.decision.isAllowed = true)) ∧
      ∀ (seconds : Nat) (reading : Int64),
        reading.toInt = limiter.clock.nowMs.toInt + 1000 * seconds →
        (start policy clock).Timely
          (earlier ++ [.consume key, .setClock reading]) →
        (((limiter.consume key).1.step (.setClock reading)).1.consume
          key).2.isAllowed = decide (retryAfter ≤ seconds) := by
  intro limiter retryAfter
  have atRest := ((settled_start policy clock).run earlier).atRest
  constructor
  · intro later timely uncleared before call after made keyed
    have follows := (follows_start timely).run Clock.Precedes.refl
    exact calls_of_refused atRest follows uncleared refused made keyed
  · intro seconds reading waited timely
    have follows := (follows_start timely).run Clock.Precedes.refl
    exact isAllowed_after_wait follows refused waited

/-- A refusal that asks for three seconds where two and a third would do.  Two are
too few; after three a token is granted, although a sweep has removed the bucket
by then. -/
theorem refused_for_two_of_three_seconds :
    let begun := start .slow { nowMs := 0 }
    let earlier : List Event := [.consume "a", .setClock 200]
    let limiter := (begun.run earlier).1
    let later : List Event :=
      [.setClock 2200, .consume "a", .consume "b", .setClock 2600, .evictIdle,
        .setClock 3200, .consume "a"]
    let early : Call := { now := 2200, key := "a", decision := .denied 1 2 1 }
    let other : Call := { now := 2200, key := "b", decision := .allowed 1 0 4 }
    let late : Call := { now := 3200, key := "a", decision := .allowed 1 0 5 }
    (limiter.consume "a").2 = .denied 1 2 3 ∧
      begun.Timely (earlier ++ .consume "a" :: later) ∧ .clear ∉ later ∧
      (limiter.consume "a").1.calls later = [early, other, late] ∧
      .evicted 1 ∈ ((limiter.consume "a").1.run later).2 ∧
      early.decision.isAllowed = false ∧
      (late.decision.isAllowed = true ∨
        ∃ between ∈ [early, other], between.key = "a" ∧
          between.decision.isAllowed = true) ∧
      (((limiter.consume "a").1.step (.setClock 2200)).1.consume
        "a").2.isAllowed = false := by
  intro begun earlier limiter later early other late
  have timely : begun.Timely (earlier ++ .consume "a" :: later) := by decide
  have uncleared : .clear ∉ later := by decide
  have made : (limiter.consume "a").1.calls later = [early, other, late] := by
    decide +kernel
  have refused : (limiter.consume "a").2 = .denied 1 2 3 := by decide +kernel
  obtain ⟨spaced, least⟩ := refused_until_retryAfter .slow { nowMs := 0 } earlier
    "a" (congrArg Decision.isAllowed refused)
  have begins := (spaced later timely uncleared [] early [other, late] made rfl).1
    (by decide +kernel)
  have ends := (spaced later timely uncleared [early, other] late [] made rfl).2
    (by decide +kernel)
  have short : ¬(limiter.consume "a").2.retryAfterSeconds.toNat ≤ 2 := by
    decide +kernel
  have whole := (least 2 2200 (by decide +kernel) (by decide)).trans
    (decide_eq_false short)
  exact ⟨refused, timely, uncleared, made, by decide +kernel, begins, ends, whole⟩

end Limiter
end Turnstile
