import Turnstile.Proofs.Ceiling

/-!
# A clock that leaves its buckets far behind

A clock that never goes back can still get further from the last refill of a
bucket than a signed word can tell.  The difference then wraps to a negative
one, and both the refill and the eviction test take it for no time at all: the
bucket stays in the store and is left with the tokens it holds.

Such a bucket grants less than it should and never more.  The ceiling on what a
window grants therefore stands for every clock that never goes back.  Sweeps
cannot be left out of the run first, since a key whose bucket was swept in time
starts anew with a full one where the bucket would have been left behind; but a
bucket that is swept away was worth a new one.
-/

namespace Turnstile

/-- Whether one instant is not after another. -/
def Clock.Ordered (earlier later : Int64) : Prop :=
  earlier.toInt ≤ later.toInt

instance Clock.decidableOrdered (earlier later : Int64) :
    Decidable (Clock.Ordered earlier later) :=
  inferInstanceAs (Decidable (_ ≤ _))

theorem Clock.Ordered.refl (instant : Int64) : Clock.Ordered instant instant :=
  Int.le_refl _

namespace Bucket

/-- Whether the time since the last refill is too long for a signed word. -/
def IsDistant (now : Int64) (bucket : Bucket) : Prop :=
  0x8000_0000_0000_0000 ≤ now.toInt - bucket.lastRefillMs.toInt

instance decidableIsDistant (now : Int64) (bucket : Bucket) :
    Decidable (bucket.IsDistant now) :=
  inferInstanceAs (Decidable (_ ≤ _))

section Distant

variable
  {policy : Policy}
  {bucket : Bucket}
  {now : Int64}

theorem reaches_of_not_distant
    (ordered : Clock.Ordered bucket.lastRefillMs now)
    (near : ¬bucket.IsDistant now) : bucket.Reaches now := by
  rw [Clock.Ordered] at ordered
  rw [IsDistant] at near
  constructor <;> omega

/-- Too long a time wraps to a negative one. -/
theorem toInt_sub_of_distant (distant : bucket.IsDistant now) :
    (now - bucket.lastRefillMs).toInt < 0 := by
  rw [IsDistant] at distant
  have latest := now.toInt_lt
  have earliest := bucket.lastRefillMs.le_toInt
  rw [Int64.toInt_sub, Int.bmod_def]
  omega

/-- A bucket that is left behind is not refilled any more. -/
theorem refill_of_distant
    (policy : Policy)
    (distant : bucket.IsDistant now) : bucket.refill policy now = bucket := by
  have back := toInt_sub_of_distant distant
  have positive := policy.intervalMs_pos
  have still : bucket.elapsed now = 0 :=
    if_pos (Int64.le_iff_toInt_le.2 back.le)
  have notDue : ¬policy.interval ≤ bucket.elapsed now := by
    rw [still, Int64.le_iff_toInt_le, Policy.toInt_interval, Int64.toInt_zero]
    omega
  rw [refill]
  exact if_neg notDue

/-- Nor is it swept away, once it has spent a token. -/
theorem isReplenished_of_distant
    (distant : bucket.IsDistant now)
    (spent : bucket.tokens.toNat < policy.capacity.toNat) :
    bucket.isReplenished policy now = false := by
  have back := toInt_sub_of_distant distant
  have nothing : (policy.tokensFor (now - bucket.lastRefillMs)).toNat = 0 := by
    rw [Policy.toNat_tokensFor, Int.toNat_of_nonpos back.le, Nat.zero_div,
      Nat.zero_mul, Nat.zero_min]
  rw [isReplenished, decide_eq_false_iff_not, UInt64.le_iff_toNat_le,
    Saturating.toNat_add, nothing, UInt32.toNat_toUInt64,
    UInt32.toNat_toUInt64]
  omega

/-- The tokens that a bucket can grant up to an instant, as seen from now: its worth,
unless it has been left behind. -/
def prospect
    (policy : Policy)
    (now : Int64)
    (closing : Int)
    (bucket : Bucket) : Nat :=
  if bucket.IsDistant now then bucket.tokens.toNat
  else bucket.worth policy closing

theorem prospect_le_worth
    (policy : Policy)
    (now : Int64)
    (closing : Int)
    (bucket : Bucket) :
    bucket.prospect policy now closing ≤ bucket.worth policy closing := by
  rw [prospect]
  split
  · exact Nat.le_add_right ..
  · exact Nat.le_refl _

/-- The prospect of a bucket does not grow while it is left alone. -/
theorem prospect_le_of_ordered
    (policy : Policy)
    {later : Int64}
    (ordered : Clock.Ordered now later)
    (closing : Int) :
    bucket.prospect policy later closing ≤ bucket.prospect policy now closing := by
  by_cases distant : bucket.IsDistant now
  · have distantLater : bucket.IsDistant later := by
      rw [Clock.Ordered] at ordered
      rw [IsDistant] at distant ⊢
      omega
    rw [prospect, prospect, if_pos distant, if_pos distantLater]
  · rw [prospect.eq_def policy now, if_neg distant]
    exact prospect_le_worth ..

/-- A check of a bucket that has been left behind grants one of its tokens or
nothing. -/
theorem isAllowed_add_prospect_take_of_distant
    (policy : Policy)
    (distant : bucket.IsDistant now)
    (closing : Int) :
    (bucket.take policy now).2.isAllowed.toNat +
        (bucket.take policy now).1.prospect policy now closing =
      bucket.tokens.toNat := by
  have unchanged := refill_of_distant policy distant
  have distantStill : (bucket.take policy now).1.IsDistant now := by
    rw [IsDistant, lastRefillMs_take, unchanged]
    exact distant
  rw [prospect, if_pos distantStill, isAllowed_add_tokens_take, available,
    unchanged]

/-- What a check grants and leaves is no more than the worth of the refilled
bucket. -/
theorem isAllowed_add_prospect_take_le_worth
    (policy : Policy)
    (bucket : Bucket)
    (now : Int64)
    (closing : Int) :
    (bucket.take policy now).2.isAllowed.toNat +
        (bucket.take policy now).1.prospect policy now closing ≤
      (bucket.refill policy now).worth policy closing := by
  rw [← isAllowed_add_worth_take]
  exact Nat.add_le_add_left (prospect_le_worth ..) _

/-- A check grants from the prospect of its bucket and adds nothing to it. -/
theorem isAllowed_add_prospect_take_le
    (policy : Policy)
    (past : Clock.Ordered bucket.lastRefillMs now)
    (bounded : bucket.tokens.toNat ≤ policy.capacity.toNat)
    {closing : Int}
    (ahead : now.toInt ≤ closing) :
    (bucket.take policy now).2.isAllowed.toNat +
        (bucket.take policy now).1.prospect policy now closing ≤
      bucket.prospect policy now closing := by
  by_cases distant : bucket.IsDistant now
  · rw [isAllowed_add_prospect_take_of_distant policy distant,
      prospect.eq_def policy now, if_pos distant]
  · have reaches := reaches_of_not_distant past distant
    rw [prospect.eq_def policy now closing bucket, if_neg distant]
    exact (isAllowed_add_prospect_take_le_worth ..).trans
      (worth_refill_le policy reaches bounded ahead)

/-- What a check in a window grants and leaves is at most the capacity and what a
span earns that is less than one interval longer. -/
theorem isAllowed_add_prospect_take_le_window
    (policy : Policy)
    (past : Clock.Ordered bucket.lastRefillMs now)
    (bounded : bucket.tokens.toNat ≤ policy.capacity.toNat)
    {opening : Int}
    (opened : opening ≤ now.toInt)
    (closing : Int) :
    (bucket.take policy now).2.isAllowed.toNat +
        (bucket.take policy now).1.prospect policy now closing ≤
      policy.capacity.toNat +
        policy.earned (closing - opening + (policy.intervalMs.toNat - 1)) := by
  by_cases distant : bucket.IsDistant now
  · rw [isAllowed_add_prospect_take_of_distant policy distant]
    exact bounded.trans (Nat.le_add_right ..)
  · have reaches := reaches_of_not_distant past distant
    exact (isAllowed_add_prospect_take_le_worth ..).trans
      (worth_refill_le_window policy reaches bounded opened closing)

theorem prospect_full
    (policy : Policy)
    (now : Int64)
    (closing : Int) :
    (full policy.capacity now).prospect policy now closing =
      (full policy.capacity now).worth policy closing := by
  have near : ¬(full policy.capacity now).IsDistant now := by
    change ¬_ ≤ now.toInt - now.toInt
    omega
  rw [prospect, if_neg near]

/-- A bucket that a sweep removes was worth a new one. -/
theorem worth_full_le_prospect_of_isReplenished
    (past : Clock.Ordered bucket.lastRefillMs now)
    (spent : bucket.tokens.toNat < policy.capacity.toNat)
    (replenished : bucket.isReplenished policy now = true)
    {closing : Int}
    (ahead : now.toInt ≤ closing) :
    (full policy.capacity now).worth policy closing ≤
      bucket.prospect policy now closing := by
  by_cases distant : bucket.IsDistant now
  · rw [isReplenished_of_distant distant spent] at replenished
    cases replenished
  · have reaches := reaches_of_not_distant past distant
    rw [prospect, if_neg distant,
      ← refill_eq_full policy reaches spent replenished]
    exact worth_refill_le policy reaches spent.le ahead

end Distant
end Bucket

namespace Limiter

/-- Whether the clock of a run never goes back. -/
def Ascending (limiter : Limiter) (events : List Event) : Prop :=
  (limiter.readings events).Pairwise Clock.Ordered

instance decidableAscending (limiter : Limiter) (events : List Event) :
    Decidable (limiter.Ascending events) :=
  inferInstanceAs (Decidable (List.Pairwise _ _))

/-- What a key can be granted up to an instant, as seen from now. -/
def prospect (limiter : Limiter) (key : String) (closing : Int) : Nat :=
  (limiter.bucketFor key).prospect limiter.policy limiter.clock.nowMs closing

/-- A window that has closed grants nothing more. -/
theorem granted_eq_zero_of_past
    {limiter : Limiter}
    {events : List Event}
    (ascending : limiter.Ascending events)
    (key : String)
    (opening : Int)
    {closing : Int}
    (closed : closing < limiter.clock.nowMs.toInt) :
    granted key opening closing (limiter.calls events) = 0 := by
  rw [granted, List.countP_eq_zero]
  intro call member grant
  obtain ⟨-, -, -, inside⟩ := of_decide_eq_true grant
  obtain same | later := List.mem_cons.1 (now_mem_readings member)
  · rw [same] at inside
    omega
  · have after := (List.pairwise_cons.1 ascending).1 call.now later
    rw [Clock.Ordered] at after
    omega

/-- The prospect of a key does not grow as time passes. -/
theorem prospect_setClock_le
    (limiter : Limiter)
    {nowMs : Int64}
    (ordered : Clock.Ordered limiter.clock.nowMs nowMs)
    (key : String)
    (closing : Int) :
    (limiter.step (.setClock nowMs)).1.prospect key closing ≤
      limiter.prospect key closing := by
  rw [prospect, prospect, bucketFor, bucketFor]
  change ((limiter.store.snapshot? key).getD
    (.full limiter.policy.capacity nowMs)).prospect
      limiter.policy nowMs closing ≤ _
  cases limiter.store.snapshot? key with
  | some bucket => exact Bucket.prospect_le_of_ordered _ ordered closing
  | none =>
      have shorter : closing - nowMs.toInt ≤
          closing - limiter.clock.nowMs.toInt := by
        rw [Clock.Ordered] at ordered
        omega
      rw [Option.getD_none, Option.getD_none, Bucket.prospect_full,
        Bucket.prospect_full, Bucket.worth_full, Bucket.worth_full]
      exact Nat.add_le_add_left (limiter.policy.earned_mono shorter) _

/-- A sweep takes nothing from a key that a new bucket would not give it, and gives
it nothing either. -/
theorem prospect_evictIdle_le
    {limiter : Limiter}
    (settled : limiter.Settled)
    {key : String}
    (past : Clock.Ordered (limiter.bucketFor key).lastRefillMs
      limiter.clock.nowMs)
    {closing : Int}
    (ahead : limiter.clock.nowMs.toInt ≤ closing) :
    limiter.evictIdle.1.prospect key closing ≤
      limiter.prospect key closing := by
  rw [bucketFor] at past
  rw [prospect, prospect, bucketFor, bucketFor,
    snapshot?_evictIdle settled.atRest]
  cases stored : limiter.store.snapshot? key with
  | none => exact Nat.le_refl _
  | some bucket =>
      rw [stored, Option.getD_some] at past
      rw [Option.getD_some, Option.filter_some]
      cases replenished :
          bucket.isReplenished limiter.policy limiter.clock.nowMs with
      | false => exact Nat.le_refl _
      | true =>
          have worth := Bucket.worth_full_le_prospect_of_isReplenished past
            (settled.spent stored) replenished ahead
          rw [← Bucket.prospect_full] at worth
          exact worth

theorem prospect_consume_self (limiter : Limiter) (key : String) (closing : Int) :
    (limiter.consume key).1.prospect key closing =
      ((limiter.bucketFor key).take limiter.policy
        limiter.clock.nowMs).1.prospect limiter.policy limiter.clock.nowMs
          closing := by
  rw [prospect, bucketFor, snapshot?_consume_self]
  rfl

theorem prospect_consume_of_ne
    (limiter : Limiter)
    {key checked : String}
    (distinct : key ≠ checked)
    (closing : Int) :
    (limiter.consume checked).1.prospect key closing =
      limiter.prospect key closing := by
  rw [prospect, bucketFor, snapshot?_consume, if_neg distinct]
  rfl

/-- The checks of a key are granted no more than its prospect, whether or not its
bucket is swept away between them. -/
theorem granted_le_prospect
    {limiter : Limiter}
    (settled : limiter.Settled)
    {events : List Event}
    (follows : limiter.Follows Clock.Ordered events)
    (uncleared : .clear ∉ events)
    (key : String)
    (opening closing : Int) :
    granted key opening closing (limiter.calls events) ≤
      limiter.prospect key closing := by
  induction events generalizing limiter with
  | nil => exact Nat.zero_le _
  | cons event events inductionHypothesis =>
      by_cases closed : closing < limiter.clock.nowMs.toInt
      · rw [granted_eq_zero_of_past follows.readings key opening closed]
        exact Nat.zero_le _
      · have ahead := Int.not_lt.1 closed
        have past := follows.bucketFor_now Clock.Ordered.refl key
        have tail := inductionHypothesis (settled.step event)
          (follows.step Clock.Ordered.refl)
          fun later => uncleared (List.mem_cons_of_mem _ later)
        cases event with
        | consume checked =>
            change granted _ _ _ ((limiter.consume checked).1.calls _) ≤
              (limiter.consume checked).1.prospect _ _ at tail
            by_cases same : key = checked
            · subst same
              have head := limiter.granted_consume_le key events opening closing
              have check := Bucket.isAllowed_add_prospect_take_le
                limiter.policy past (settled.tokens_bucketFor_le key) ahead
              rw [prospect_consume_self] at tail
              rw [prospect]
              omega
            · rw [granted_consume_of_outside _ _ _ (Or.inl (Ne.symm same))]
              rw [prospect_consume_of_ne _ same] at tail
              exact tail
        | evictIdle =>
            exact tail.trans (prospect_evictIdle_le settled past ahead)
        | clear => exact absurd List.mem_cons_self uncleared
        | setClock nowMs =>
            have later : nowMs ∈ limiter.readings (.setClock nowMs :: events) :=
              List.mem_cons_of_mem _ List.mem_cons_self
            exact tail.trans (limiter.prospect_setClock_le
              (follows.now Clock.Ordered.refl nowMs later) key closing)

/-- Under a clock that never goes back, however far it goes, and with sweeps at any
point, a window grants a key at most the capacity and the refill rate for each
interval that it touches. -/
theorem granted_le_of_ascending
    {limiter : Limiter}
    (settled : limiter.Settled)
    {events : List Event}
    (follows : limiter.Follows Clock.Ordered events)
    (uncleared : .clear ∉ events)
    (key : String)
    {opening closing : Int}
    (ordered : opening ≤ closing) :
    granted key opening closing (limiter.calls events) ≤
      limiter.policy.capacity.toNat +
        limiter.policy.refillRate.toNat *
          ((closing - opening).toNat ⌈/⌉ limiter.policy.intervalMs.toNat) := by
  have forward : 0 ≤ closing - opening := by omega
  rw [← limiter.policy.earned_lengthened forward]
  induction events generalizing limiter with
  | nil => exact Nat.zero_le _
  | cons event events inductionHypothesis =>
      have unclearedTail : .clear ∉ events := fun later =>
        uncleared (List.mem_cons_of_mem _ later)
      have next := settled.step event
      have nextFollows := follows.step Clock.Ordered.refl
      have tail := inductionHypothesis next nextFollows unclearedTail
      cases event with
      | consume checked =>
          by_cases outside :
              checked ≠ key ∨ limiter.clock.nowMs.toInt < opening
          · rw [granted_consume_of_outside _ _ _ outside]
            exact tail
          · obtain ⟨same, opened⟩ := not_or.1 outside
            rw [not_not] at same
            subst same
            have past := follows.bucketFor_now Clock.Ordered.refl checked
            have head := limiter.granted_consume_le checked events opening
              closing
            have check := Bucket.isAllowed_add_prospect_take_le_window
              limiter.policy past (settled.tokens_bucketFor_le checked)
              (Int.not_lt.1 opened) closing
            have rest : _ ≤ (limiter.consume checked).1.prospect checked closing :=
              granted_le_prospect next nextFollows unclearedTail checked opening
                closing
            rw [prospect_consume_self] at rest
            exact head.trans ((Nat.add_le_add_left rest _).trans check)
      | evictIdle => exact tail
      | clear => exact absurd List.mem_cons_self uncleared
      | setClock nowMs => exact tail

end Limiter
end Turnstile
