import Turnstile.Proofs.Handles
import Turnstile.Proofs.Refill

/-!
# Runs of a limiter, event by event

A run is read through the buckets that its limiter stores.  The lemmas here say
what one event does to them, and from that what a whole run keeps: between
events no handle is outstanding, every stored bucket has spent a token, and its
last refill stays in a given relation to every clock reading still to come.

The relation is a parameter.  A run whose clock may move either way uses
`Clock.Spans`, a run whose clock never goes back uses `Clock.Precedes`.
-/

namespace Turnstile

/-- Three tokens, two of them regained each second: a policy for short runs. -/
def Policy.small : Policy where
  capacity := 3
  refillRate := 2
  intervalMs := 1000
  capacity_pos := by decide
  refillRate_pos := by decide
  intervalMs_pos := by decide
  intervalMs_lt := by decide

/-- One token, regained each second: a policy for which every token counts. -/
def Policy.single : Policy where
  capacity := 1
  refillRate := 1
  intervalMs := 1000
  capacity_pos := by decide
  refillRate_pos := by decide
  intervalMs_pos := by decide
  intervalMs_lt := by decide

/-- One token, regained every two and a half seconds: a policy under which a wait
ends between two seconds. -/
def Policy.slow : Policy where
  capacity := 1
  refillRate := 1
  intervalMs := 2500
  capacity_pos := by decide
  refillRate_pos := by decide
  intervalMs_pos := by decide
  intervalMs_lt := by decide

namespace Clock

/-- Whether the time from one instant to another fits a signed word. -/
def Spans (earlier later : Int64) : Prop :=
  -0x8000_0000_0000_0000 ≤ later.toInt - earlier.toInt ∧
    later.toInt - earlier.toInt < 0x8000_0000_0000_0000

/-- Whether one instant is not after another, and the time between them fits a
signed word. -/
def Precedes (earlier later : Int64) : Prop :=
  earlier.toInt ≤ later.toInt ∧
    later.toInt - earlier.toInt < 0x8000_0000_0000_0000

instance decidableSpans (earlier later : Int64) :
    Decidable (Spans earlier later) :=
  inferInstanceAs (Decidable (_ ∧ _))

instance decidablePrecedes (earlier later : Int64) :
    Decidable (Precedes earlier later) :=
  inferInstanceAs (Decidable (_ ∧ _))

theorem Spans.refl (instant : Int64) : Spans instant instant := by
  constructor <;> omega

theorem Precedes.refl (instant : Int64) : Precedes instant instant := by
  constructor <;> omega

theorem Precedes.spans
    {earlier later : Int64}
    (precedes : Precedes earlier later) : Spans earlier later := by
  obtain ⟨ordered, close⟩ := precedes
  exact ⟨by omega, close⟩

end Clock

namespace Limiter

/-- The clock reading that an event sets. -/
def Event.reading? : Event → Option Int64
  | .setClock nowMs => some nowMs
  | _ => none

/-- The clock readings of a run, the present one first. -/
def readings (limiter : Limiter) (events : List Event) : List Int64 :=
  limiter.clock.nowMs :: events.filterMap Event.reading?

/-- Whether the clock of a run moves by signed words. -/
def Measurable (limiter : Limiter) (events : List Event) : Prop :=
  (limiter.readings events).Pairwise Clock.Spans

/-- Whether the clock of a run never goes back, and moves by signed words. -/
def Timely (limiter : Limiter) (events : List Event) : Prop :=
  (limiter.readings events).Pairwise Clock.Precedes

instance decidableMeasurable (limiter : Limiter) (events : List Event) :
    Decidable (limiter.Measurable events) :=
  inferInstanceAs (Decidable (List.Pairwise _ _))

instance decidableTimely (limiter : Limiter) (events : List Event) :
    Decidable (limiter.Timely events) :=
  inferInstanceAs (Decidable (List.Pairwise _ _))

/-- A check of a run: the clock reading it was made at, its key, and what was
decided. -/
structure Call where
  now : Int64
  key : String
  decision : Decision
deriving DecidableEq, Repr

/-- The check that an event makes. -/
def call? (limiter : Limiter) : Event → Option Call
  | .consume key =>
      some {
        now := limiter.clock.nowMs
        key
        decision := (limiter.consume key).2 }
  | _ => none

/-- What a call tells of the event that makes it. -/
theorem of_mem_call?
    {limiter : Limiter}
    {event : Event}
    {call : Call}
    (made : call ∈ (limiter.call? event).toList) :
    event = .consume call.key ∧ call.now = limiter.clock.nowMs ∧
      call.decision = (limiter.consume call.key).2 := by
  cases event with
  | consume key =>
      obtain rfl := List.mem_singleton.1 made
      exact ⟨rfl, rfl, rfl⟩
  | evictIdle => cases made
  | clear => cases made
  | setClock nowMs => cases made

/-- The checks of a run in their order. -/
def calls (limiter : Limiter) : List Event → List Call
  | [] => []
  | event :: events =>
      (limiter.call? event).toList ++ (limiter.step event).1.calls events

/-- The decision that an answer carries. -/
def Answer.decision? : Answer → Option Decision
  | .decision decided => some decided
  | _ => none

/-- The decisions among the answers of a run, in their order. -/
def decisions (answers : List Answer) : List Decision :=
  answers.filterMap Answer.decision?

/-- The decisions of a run are those of its checks. -/
theorem decisions_run (limiter : Limiter) (events : List Event) :
    decisions (limiter.run events).2 =
      (limiter.calls events).map Call.decision := by
  induction events generalizing limiter with
  | nil => rfl
  | cons event events inductionHypothesis =>
      have tail := inductionHypothesis (limiter.step event).1
      rw [decisions] at tail
      rw [run_cons, decisions, calls, List.map_append, ← tail]
      cases event <;> rfl

/-! ## One event -/

theorem step_consume (limiter : Limiter) (key : String) :
    limiter.step (.consume key) =
      ((limiter.consume key).1, .decision (limiter.consume key).2) := by
  rw [step]

theorem calls_consume (limiter : Limiter) (key : String) (events : List Event) :
    limiter.calls (.consume key :: events) =
      { now := limiter.clock.nowMs
        key
        decision := (limiter.consume key).2 } ::
          (limiter.consume key).1.calls events := by
  rw [calls, call?, step_consume, Option.toList_some, List.singleton_append]

/-- An event that is no check adds none. -/
theorem calls_cons_of_call?_eq_none
    {limiter : Limiter}
    {event : Event}
    (silent : limiter.call? event = none)
    (events : List Event) :
    limiter.calls (event :: events) =
      (limiter.step event).1.calls events := by
  rw [calls, silent]
  rfl

theorem policy_step (limiter : Limiter) (event : Event) :
    (limiter.step event).1.policy = limiter.policy := by
  cases event <;> rfl

theorem policy_run (limiter : Limiter) (events : List Event) :
    (limiter.run events).1.policy = limiter.policy := by
  induction events generalizing limiter with
  | nil => rfl
  | cons event events inductionHypothesis =>
      rw [run_cons, inductionHypothesis, policy_step]

/-- A run goes on from where its first part ends. -/
theorem run_append (limiter : Limiter) (earlier later : List Event) :
    (limiter.run (earlier ++ later)).1 =
      ((limiter.run earlier).1.run later).1 := by
  induction earlier generalizing limiter with
  | nil => rfl
  | cons event earlier inductionHypothesis =>
      rw [List.cons_append, run_cons, run_cons, inductionHypothesis]

/-- The readings from an event on are among those from before it. -/
theorem readings_step_sublist
    (limiter : Limiter)
    (event : Event)
    (events : List Event) :
    ((limiter.step event).1.readings events).Sublist
      (limiter.readings (event :: events)) := by
  cases event with
  | setClock nowMs => exact List.sublist_cons_self ..
  | consume key => exact List.Sublist.refl _
  | evictIdle => exact List.Sublist.refl _
  | clear => exact List.Sublist.refl _

theorem snapshot?_consume (limiter : Limiter) (key other : String) :
    (limiter.consume key).1.store.snapshot? other =
      if other = key then
        some ((limiter.bucketFor key).take limiter.policy
          limiter.clock.nowMs).1
      else limiter.store.snapshot? other := by
  rw [Store.snapshot?, slots_consume, Table.get?_put]
  split <;> rfl

theorem snapshot?_consume_self (limiter : Limiter) (key : String) :
    (limiter.consume key).1.store.snapshot? key =
      some ((limiter.bucketFor key).take limiter.policy
        limiter.clock.nowMs).1 := by
  rw [snapshot?_consume, if_pos rfl]

theorem get?_evictIdle (limiter : Limiter) (key : String) :
    limiter.evictIdle.1.store.slots.get? key =
      (limiter.store.slots.get? key).filter
        (Slot.isKept
          (Bucket.isReplenished limiter.policy limiter.clock.nowMs)) := by
  exact Table.get?_filter ..

/-- A sweep of a store at rest removes the replenished buckets. -/
theorem snapshot?_evictIdle
    {limiter : Limiter}
    (atRest : limiter.store.AtRest)
    (key : String) :
    limiter.evictIdle.1.store.snapshot? key =
      (limiter.store.snapshot? key).filter fun bucket =>
        !bucket.isReplenished limiter.policy limiter.clock.nowMs := by
  rw [Store.snapshot?, get?_evictIdle, Store.snapshot?]
  cases stored : limiter.store.slots.get? key with
  | none => rfl
  | some slot =>
      have unheld := atRest key slot stored
      by_cases replenished :
          slot.bucket.isReplenished limiter.policy limiter.clock.nowMs = true
      · simp [Option.filter, Slot.isKept, unheld, replenished]
      · simp [Option.filter, Slot.isKept, replenished]

/-- A slot stored after an event was stored before it, or is the one that a check has
worked on, with the bucket that it left. -/
theorem get?_step
    {limiter : Limiter}
    {event : Event}
    {key : String}
    {slot : Slot}
    (stored : (limiter.step event).1.store.slots.get? key = some slot) :
    limiter.store.slots.get? key = some slot ∨
      event = .consume key ∧
        slot.birth = (limiter.slotFor key).birth ∧
        slot.handles = (limiter.slotFor key).handles ∧
        slot.bucket = ((limiter.bucketFor key).take limiter.policy
          limiter.clock.nowMs).1 := by
  cases event with
  | consume checked =>
      rw [step_consume, slots_consume, Table.get?_put] at stored
      split at stored
      · next same =>
          subst same
          rw [← Option.some.inj stored]
          exact Or.inr ⟨rfl, rfl, rfl, rfl⟩
      · exact Or.inl stored
  | evictIdle =>
      change limiter.evictIdle.1.store.slots.get? key = _ at stored
      rw [get?_evictIdle, Option.filter_eq_some_iff] at stored
      exact Or.inl stored.1
  | clear => cases stored
  | setClock nowMs => exact Or.inl stored

/-- A bucket stored after an event was stored before it, or is what a check has
just left. -/
theorem snapshot?_step
    {limiter : Limiter}
    {event : Event}
    {key : String}
    {bucket : Bucket}
    (stored : (limiter.step event).1.store.snapshot? key = some bucket) :
    limiter.store.snapshot? key = some bucket ∨
      event = .consume key ∧
        bucket = ((limiter.bucketFor key).take limiter.policy
          limiter.clock.nowMs).1 := by
  obtain ⟨slot, found, rfl⟩ := Option.map_eq_some_iff.1 stored
  obtain before | ⟨made, -, -, left⟩ := get?_step found
  · left
    rw [Store.snapshot?, before, Option.map_some]
  · exact Or.inr ⟨made, left⟩

/-- An event leaves no handle behind. -/
theorem atRest_step
    {limiter : Limiter}
    (atRest : limiter.store.AtRest)
    (event : Event) : (limiter.step event).1.store.AtRest := by
  intro key slot stored
  obtain before | ⟨-, -, held, -⟩ := get?_step stored
  · exact atRest key slot before
  · rw [held]
    exact atRest.handles_slotFor ..

/-! ## What every run keeps -/

/-- Between events no handle is outstanding, and every stored bucket has spent a
token: a bucket is only stored by a check. -/
structure Settled (limiter : Limiter) : Prop where
  atRest : limiter.store.AtRest
  spent : ∀ {key bucket}, limiter.store.snapshot? key = some bucket →
    bucket.tokens.toNat < limiter.policy.capacity.toNat

theorem settled_start (policy : Policy) (clock : Clock) :
    (start policy clock).Settled where
  atRest := Store.atRest_empty
  spent stored := by cases stored

/-- The bucket of a check holds no more than the capacity. -/
theorem Settled.tokens_bucketFor_le
    {limiter : Limiter}
    (settled : limiter.Settled)
    (key : String) :
    (limiter.bucketFor key).tokens.toNat ≤ limiter.policy.capacity.toNat := by
  rw [bucketFor]
  cases stored : limiter.store.snapshot? key with
  | none => exact Nat.le_refl _
  | some bucket => exact (settled.spent stored).le

theorem Settled.step
    {limiter : Limiter}
    (settled : limiter.Settled)
    (event : Event) : (limiter.step event).1.Settled where
  atRest := atRest_step settled.atRest event
  spent := by
    intro key bucket stored
    rw [policy_step]
    obtain before | ⟨-, rfl⟩ := snapshot?_step stored
    · exact settled.spent before
    · exact Bucket.toNat_tokens_take_lt _ (settled.tokens_bucketFor_le key) _

theorem Settled.run
    {limiter : Limiter}
    (settled : limiter.Settled)
    (events : List Event) : (limiter.run events).1.Settled := by
  induction events generalizing limiter with
  | nil => exact settled
  | cons event events inductionHypothesis =>
      exact inductionHypothesis (settled.step event)

/-- The clock readings to come stand in a relation to each other and to the last
refill of every stored bucket. -/
structure Follows
    (relation : Int64 → Int64 → Prop)
    (limiter : Limiter)
    (events : List Event) : Prop where
  stored : ∀ {key bucket}, limiter.store.snapshot? key = some bucket →
    ∀ reading ∈ limiter.readings events, relation bucket.lastRefillMs reading
  readings : (limiter.readings events).Pairwise relation

section Follows

variable {relation : Int64 → Int64 → Prop}

theorem follows_start
    {policy : Policy}
    {clock : Clock}
    {events : List Event}
    (readings : ((start policy clock).readings events).Pairwise relation) :
    (start policy clock).Follows relation events where
  stored stored := by cases stored
  readings := readings

theorem Follows.imp
    {weaker : Int64 → Int64 → Prop}
    {limiter : Limiter}
    {events : List Event}
    (follows : limiter.Follows relation events)
    (implies : ∀ {earlier later}, relation earlier later → weaker earlier later) :
    limiter.Follows weaker events where
  stored stored reading member := implies (follows.stored stored reading member)
  readings := follows.readings.imp implies

/-- The present reading stands in the relation to every reading to come. -/
theorem Follows.now
    {limiter : Limiter}
    {events : List Event}
    (follows : limiter.Follows relation events)
    (reflexive : ∀ instant, relation instant instant) :
    ∀ reading ∈ limiter.readings events,
      relation limiter.clock.nowMs reading := by
  intro reading member
  obtain same | later := List.mem_cons.1 member
  · rw [same]
    exact reflexive _
  · exact (List.pairwise_cons.1 follows.readings).1 reading later

/-- The bucket of a check stands in the relation to every reading to come. -/
theorem Follows.bucketFor
    {limiter : Limiter}
    {events : List Event}
    (follows : limiter.Follows relation events)
    (reflexive : ∀ instant, relation instant instant)
    (key : String) :
    ∀ reading ∈ limiter.readings events,
      relation (limiter.bucketFor key).lastRefillMs reading := by
  rw [Limiter.bucketFor]
  cases stored : limiter.store.snapshot? key with
  | none => exact follows.now reflexive
  | some bucket => exact follows.stored stored

/-- So it does to the present one. -/
theorem Follows.bucketFor_now
    {limiter : Limiter}
    {events : List Event}
    (follows : limiter.Follows relation events)
    (reflexive : ∀ instant, relation instant instant)
    (key : String) :
    relation (limiter.bucketFor key).lastRefillMs limiter.clock.nowMs :=
  follows.bucketFor reflexive key _ List.mem_cons_self

theorem Follows.step
    {limiter : Limiter}
    {event : Event}
    {events : List Event}
    (follows : limiter.Follows relation (event :: events))
    (reflexive : ∀ instant, relation instant instant) :
    (limiter.step event).1.Follows relation events where
  stored := by
    intro key bucket stored reading member
    have earlier :=
      (limiter.readings_step_sublist event events).subset member
    obtain before | ⟨-, rfl⟩ := snapshot?_step stored
    · exact follows.stored before reading earlier
    · obtain stamped | same := Bucket.lastRefillMs_take_or_eq limiter.policy
        (limiter.bucketFor key) limiter.clock.nowMs
      · rw [stamped]
        exact follows.now reflexive reading earlier
      · rw [same]
        exact follows.bucketFor reflexive key reading earlier
  readings := follows.readings.sublist
    (limiter.readings_step_sublist event events)

theorem Follows.run
    {limiter : Limiter}
    {earlier later : List Event}
    (follows : limiter.Follows relation (earlier ++ later))
    (reflexive : ∀ instant, relation instant instant) :
    (limiter.run earlier).1.Follows relation later := by
  induction earlier generalizing limiter with
  | nil => exact follows
  | cons event events inductionHypothesis =>
      exact inductionHypothesis (follows.step reflexive)

end Follows

/-- The checks of a run are made at its clock readings. -/
theorem now_mem_readings
    {limiter : Limiter}
    {events : List Event}
    {call : Call}
    (member : call ∈ limiter.calls events) :
    call.now ∈ limiter.readings events := by
  induction events generalizing limiter with
  | nil => cases member
  | cons event events inductionHypothesis =>
      rw [calls, List.mem_append] at member
      obtain present | later := member
      · rw [(of_mem_call? present).2.1]
        exact List.mem_cons_self
      · exact (limiter.readings_step_sublist event events).subset
          (inductionHypothesis later)

/-- A check of a run is made by the limiter that the events before it lead to. -/
theorem exists_of_mem_calls
    {limiter : Limiter}
    {events : List Event}
    {call : Call}
    (member : call ∈ limiter.calls events) :
    ∃ earlier later,
      events = earlier ++ .consume call.key :: later ∧
        call.now = (limiter.run earlier).1.clock.nowMs ∧
        call.decision = ((limiter.run earlier).1.consume call.key).2 := by
  induction events generalizing limiter with
  | nil => cases member
  | cons event events inductionHypothesis =>
      rw [calls, List.mem_append] at member
      obtain present | after := member
      · obtain ⟨rfl, now, decided⟩ := of_mem_call? present
        exact ⟨[], events, rfl, now, decided⟩
      · obtain ⟨earlier, later, rfl, now, decided⟩ := inductionHypothesis after
        exact ⟨event :: earlier, later, rfl, now, decided⟩

end Limiter
end Turnstile
