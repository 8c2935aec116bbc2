import Turnstile.Proofs.Eviction

/-!
# A client that keeps the pace

A client whose checks never exceed the refill rate, nor the capacity, in any
interval is always allowed, whatever the phase of its checks.

The interval that counts begins with the bucket's last refill.  A refill brings
the tokens up to the pace or above it, and until the next one is due every token
spent is a check of that same interval: the tokens left and the checks of the
interval together are never less than the pace.
-/

namespace Turnstile
namespace Policy

/-- The checks that a client may always make in one interval. -/
def pace (policy : Policy) : Nat :=
  min policy.refillRate.toNat policy.capacity.toNat

end Policy

namespace Limiter

/-- The number of checks of a key from one instant up to another, which is left
out. -/
def asked
    (key : String)
    (opening closing : Int)
    (calls : List Call) : Nat :=
  calls.countP fun call =>
    call.key = key ∧ opening ≤ call.now.toInt ∧ call.now.toInt < closing

theorem asked_append
    (key : String)
    (opening closing : Int)
    (first second : List Call) :
    asked key opening closing (first ++ second) =
      asked key opening closing first + asked key opening closing second :=
  List.countP_append

/-- A check inside the window is counted. -/
theorem asked_cons_of_inside
    {key : String}
    {opening closing : Int}
    {call : Call}
    (same : call.key = key)
    (opened : opening ≤ call.now.toInt)
    (unclosed : call.now.toInt < closing)
    (calls : List Call) :
    asked key opening closing (call :: calls) =
      asked key opening closing calls + 1 := by
  apply List.countP_cons_of_pos
  exact decide_eq_true ⟨same, opened, unclosed⟩

/-- Whether the tokens of a bucket and the checks counted in the interval from
its last refill on make up the pace. -/
def Credits
    (policy : Policy)
    (key : String)
    (past : List Call)
    (bucket : Bucket) : Prop :=
  policy.pace ≤ bucket.tokens.toNat +
    asked key bucket.lastRefillMs.toInt
      (bucket.lastRefillMs.toInt + policy.intervalMs.toNat) past

section Credits

variable {policy : Policy} {key : String} {past : List Call}

theorem credits_full (now : Int64) :
    Credits policy key past (.full policy.capacity now) := by
  have enough : policy.pace ≤ policy.capacity.toNat := Nat.min_le_right ..
  exact enough.trans (Nat.le_add_right ..)

/-- A refill adds at least the pace, unless the interval is still running. -/
theorem Credits.refill
    {bucket : Bucket}
    (credits : Credits policy key past bucket)
    {now : Int64}
    (reaches : bucket.Reaches now)
    (bounded : bucket.tokens.toNat ≤ policy.capacity.toNat) :
    Credits policy key past (bucket.refill policy now) := by
  by_cases due : (policy.intervalMs.toNat : Int) ≤
      now.toInt - bucket.lastRefillMs.toInt
  · have found := Bucket.available_eq policy reaches bounded
    have earned := policy.refillRate_le_earned due
    have enough : policy.pace ≤ bucket.available policy now := by
      rw [found, Policy.pace]
      omega
    exact enough.trans (Nat.le_add_right ..)
  · rw [Bucket.refill_of_lt policy reaches (by omega)]
    exact credits

theorem Credits.append
    {bucket : Bucket}
    (credits : Credits policy key past bucket)
    (calls : List Call) : Credits policy key (past ++ calls) bucket := by
  rw [Credits, asked_append, ← Nat.add_assoc]
  exact credits.trans (Nat.le_add_right ..)

end Credits

/-- If the interval has room for one more check, a check on credit is allowed and
leaves the credit as it was, itself counted. -/
theorem Credits.take
    {policy : Policy}
    {key : String}
    {past : List Call}
    {bucket : Bucket}
    {now : Int64}
    (credits : Credits policy key past (bucket.refill policy now))
    (reaches : bucket.Reaches now)
    (ordered : bucket.lastRefillMs.toInt ≤ now.toInt)
    {call : Call}
    (keyed : call.key = key)
    (stamped : call.now = now)
    {later : List Call}
    (paced : ∀ opening : Int,
      asked key opening (opening + policy.intervalMs.toNat)
        (past ++ call :: later) ≤ policy.pace) :
    (bucket.take policy now).2.isAllowed = true ∧
      Credits policy key (past ++ [call]) (bucket.take policy now).1 := by
  have opened : (bucket.refill policy now).lastRefillMs.toInt ≤
      call.now.toInt := by
    rw [stamped]
    exact Bucket.lastRefillMs_refill_le policy ordered
  have unclosed : call.now.toInt <
      (bucket.refill policy now).lastRefillMs.toInt +
        policy.intervalMs.toNat := by
    have recent := Bucket.sub_lastRefillMs_refill_lt policy reaches
    rw [stamped]
    omega
  have room := paced (bucket.refill policy now).lastRefillMs.toInt
  rw [asked_append, asked_cons_of_inside keyed opened unclosed] at room
  rw [Credits] at credits
  have positive : 0 < bucket.available policy now := by
    rw [Bucket.available]
    omega
  constructor
  · rw [Bucket.isAllowed_take]
    exact decide_eq_true positive
  · rw [Credits, Bucket.lastRefillMs_take, Bucket.toNat_tokens_take,
      asked_append, asked_cons_of_inside keyed opened unclosed]
    rw [Bucket.available] at positive ⊢
    omega

theorem credits_bucketFor
    {limiter : Limiter}
    {key : String}
    {past : List Call}
    (credits : ∀ bucket, limiter.store.snapshot? key = some bucket →
      Credits limiter.policy key past bucket) :
    Credits limiter.policy key past (limiter.bucketFor key) := by
  rw [bucketFor]
  cases stored : limiter.store.snapshot? key with
  | none => exact credits_full _
  | some bucket => exact credits bucket stored

/-- One check of a run: if it is of the key, it is allowed, and in any case the
credit is left to the checks after it. -/
theorem credits_consume
    {limiter : Limiter}
    (settled : limiter.Settled)
    {key checked : String}
    {events : List Event}
    (follows : limiter.Follows Clock.Precedes (.consume checked :: events))
    {past : List Call}
    {call : Call}
    (made : limiter.call? (.consume checked) = some call)
    (credits : ∀ bucket, limiter.store.snapshot? key = some bucket →
      Credits limiter.policy key past bucket)
    {later : List Call}
    (paced : ∀ opening : Int,
      asked key opening (opening + limiter.policy.intervalMs.toNat)
        (past ++ call :: later) ≤ limiter.policy.pace) :
    (call.key = key → call.decision.isAllowed = true) ∧
      ∀ bucket, (limiter.consume checked).1.store.snapshot? key = some bucket →
        Credits limiter.policy key (past ++ [call]) bucket := by
  obtain ⟨stamped, keyed, decided⟩ : call.now = limiter.clock.nowMs ∧
      call.key = checked ∧ call.decision = (limiter.consume checked).2 := by
    rw [← Option.some.inj made]
    exact ⟨rfl, rfl, rfl⟩
  by_cases same : checked = key
  · subst same
    have precedes := follows.bucketFor_now Clock.Precedes.refl checked
    have refilled := (credits_bucketFor credits).refill precedes.spans
      (settled.tokens_bucketFor_le checked)
    obtain ⟨allowed, left⟩ := refilled.take precedes.spans precedes.1 keyed
      stamped paced
    constructor
    · intro _
      rw [decided, decision_consume]
      exact allowed
    · intro bucket stored
      rw [snapshot?_consume_self] at stored
      rw [← Option.some.inj stored]
      exact left
  · constructor
    · intro other
      exact absurd (keyed.symm.trans other) same
    · intro bucket stored
      rw [snapshot?_consume, if_neg (Ne.symm same)] at stored
      exact (credits bucket stored).append _

/-- The checks of a key that keeps the pace are allowed, from any point of a run
on at which the checks made so far have left their credit. -/
theorem allowed_of_credits
    {limiter : Limiter}
    (settled : limiter.Settled)
    {events : List Event}
    (follows : limiter.Follows Clock.Precedes events)
    (unswept : ∀ event ∈ events, event ≠ .evictIdle)
    {key : String}
    {past : List Call}
    (credits : ∀ bucket, limiter.store.snapshot? key = some bucket →
      Credits limiter.policy key past bucket)
    (paced : ∀ opening : Int,
      asked key opening (opening + limiter.policy.intervalMs.toNat)
        (past ++ limiter.calls events) ≤ limiter.policy.pace) :
    ∀ call ∈ limiter.calls events,
      call.key = key → call.decision.isAllowed = true := by
  induction events generalizing limiter past with
  | nil =>
      intro call member
      cases member
  | cons event events inductionHypothesis =>
      obtain ⟨unsweptHead, unsweptTail⟩ := List.forall_mem_cons.1 unswept
      have next := settled.step event
      have nextFollows := follows.step Clock.Precedes.refl
      cases event with
      | consume checked =>
          obtain ⟨allowed, left⟩ :=
            credits_consume settled follows rfl credits paced
          intro call member
          obtain rfl | later := List.mem_cons.1 member
          · exact allowed
          · refine inductionHypothesis next nextFollows unsweptTail left ?_
              call later
            intro opening
            rw [← List.append_cons]
            exact paced opening
      | evictIdle => exact absurd rfl unsweptHead
      | clear =>
          apply inductionHypothesis next nextFollows unsweptTail ?_ paced
          intro bucket stored
          cases stored
      | setClock nowMs =>
          exact inductionHypothesis next nextFollows unsweptTail credits paced

/-- A client that keeps the pace is never refused: if no interval, wherever it
begins, has more checks of a key than the refill rate and the capacity allow,
then under a clock that never goes back every check of the key is allowed,
across sweeps and clearings of the store. -/
theorem allowed_of_paced
    (policy : Policy)
    (clock : Clock)
    (key : String)
    (events : List Event)
    (timely : (start policy clock).Timely events)
    (paced : ∀ opening : Int,
      asked key opening (opening + policy.intervalMs.toNat)
          ((start policy clock).calls events) ≤
        min policy.refillRate.toNat policy.capacity.toNat) :
    ∀ call ∈ (start policy clock).calls events,
      call.key = key → call.decision.isAllowed = true := by
  have unswept : ∀ event ∈ withoutSweeps events, event ≠ .evictIdle := by
    intro event member
    exact of_decide_eq_true (List.mem_filter.1 member).2
  have follows := follows_start_withoutSweeps timely
  rw [calls_start_withoutSweeps timely] at paced ⊢
  have none : ∀ bucket, (start policy clock).store.snapshot? key = some bucket →
      Credits policy key [] bucket := by
    intro bucket stored
    cases stored
  exact allowed_of_credits (settled_start policy clock) follows unswept none
    paced

/-- Two checks in every second, wherever it begins, across a sweep that removes
another key and across a clearing. -/
theorem allowed_of_two_each_second :
    let limiter := start .small { nowMs := 0 }
    let events : List Event :=
      [.consume "a", .consume "b", .setClock 900, .consume "a",
        .setClock 1000, .evictIdle, .consume "a", .setClock 1900, .consume "a",
        .clear, .setClock 2000, .consume "a"]
    limiter.Timely events ∧
      (∀ opening : Int,
        asked "a" opening (opening + 1000) (limiter.calls events) ≤ 2) ∧
      ∀ call ∈ limiter.calls events,
        call.key = "a" → call.decision.isAllowed = true := by
  intro limiter events
  have timely : limiter.Timely events := by decide
  have made : limiter.calls events =
      [{ now := 0, key := "a", decision := .allowed 3 2 1 },
        { now := 0, key := "b", decision := .allowed 3 2 1 },
        { now := 900, key := "a", decision := .allowed 3 1 1 },
        { now := 1000, key := "a", decision := .allowed 3 2 2 },
        { now := 1900, key := "a", decision := .allowed 3 1 2 },
        { now := 2000, key := "a", decision := .allowed 3 2 3 }] := by
    decide
  have paced : ∀ opening : Int,
      asked "a" opening (opening + 1000) (limiter.calls events) ≤ 2 := by
    intro opening
    rw [made]
    simp [asked, List.countP_cons]
    grind
  exact ⟨timely, paced, allowed_of_paced _ _ "a" events timely paced⟩

end Limiter
end Turnstile
