import Turnstile.Proofs.Runs

/-!
# Refusals that leave no trace

A check takes a handle to the bucket of its key, storing one if there is none,
and refills it before it is known whether there is a token to take.  When the
check is refused, neither of the two has happened: a key without a bucket gets a
full one, and a refill after a whole interval adds a token at least.  A refusal
tells of a stored bucket whose interval is still running, and the check puts
back what it found.

A refused check is thus no step of the limiter at all, and a run keeps all its
other answers when any of its refused checks are left out.  A client that goes
on asking cannot put off the refill that it waits for.
-/

namespace Turnstile
namespace Bucket

/-- A refill after a whole interval leaves a token at least, even where the time
since the last refill does not fit a signed word. -/
theorem available_pos_of_due
    (policy : Policy)
    {bucket : Bucket}
    {now : Int64}
    (due : policy.interval ≤ bucket.elapsed now) :
    0 < bucket.available policy now := by
  have room := policy.capacity_pos
  have rate := policy.refillRate_pos
  have whole := due
  rw [Int64.le_iff_toInt_le, Policy.toInt_interval] at whole
  have earned := policy.refillRate_le_earned whole
  rw [Policy.earned] at earned
  have added : 0 < (policy.tokensFor (bucket.elapsed now)).toNat := by
    rw [Policy.toNat_tokensFor]
    omega
  have small := policy.capacity.toNat_lt
  rw [available, refill, if_pos due]
  simp only [UInt64.toNat_toUInt32]
  rw [Std.min_eq_if]
  split
  · next comparison =>
      rw [UInt64.le_iff_toNat_le, UInt32.toNat_toUInt64,
        Saturating.toNat_add] at comparison
      rw [Saturating.toNat_add]
      omega
  · rw [UInt32.toNat_toUInt64]
    omega

/-- A refused check has nothing to refill. -/
theorem refill_of_refused
    {policy : Policy}
    {bucket : Bucket}
    {now : Int64}
    (refused : (bucket.take policy now).2.isAllowed = false) :
    bucket.refill policy now = bucket := by
  rw [isAllowed_take, decide_eq_false_iff_not] at refused
  by_cases due : policy.interval ≤ bucket.elapsed now
  · exact absurd (available_pos_of_due policy due) refused
  · rw [refill]
    exact if_neg due

/-- A refused check leaves the bucket as it found it. -/
theorem take_of_refused
    {policy : Policy}
    {bucket : Bucket}
    {now : Int64}
    (refused : (bucket.take policy now).2.isAllowed = false) :
    (bucket.take policy now).1 = bucket := by
  have unchanged := refill_of_refused refused
  rw [isAllowed_take, decide_eq_false_iff_not, available] at refused
  have empty : ¬(0 < (bucket.refill policy now).tokens) := by
    rw [UInt32.lt_iff_toNat_lt]
    exact refused
  rw [take, if_neg empty]
  exact unchanged

/-- A check of a new bucket is allowed. -/
theorem isAllowed_take_full (policy : Policy) (now : Int64) :
    ((full policy.capacity now).take policy now).2.isAllowed = true := by
  rw [isAllowed_take, available_full]
  exact decide_eq_true policy.capacity_pos

end Bucket

namespace Table

variable {α : Type}

theorem replace_of_find
    {key : String}
    {value : α}
    {entries : List (String × α)}
    (stored : find key entries = some value) :
    replace key value entries = entries := by
  induction entries with
  | nil => cases stored
  | cons entry rest inductionHypothesis =>
      obtain ⟨other, old⟩ := entry
      rw [find] at stored
      by_cases same : other = key
      · rw [if_pos same] at stored
        rw [replace, if_pos same, Option.some.inj stored, same]
      · rw [if_neg same] at stored
        rw [replace, if_neg same, inductionHypothesis stored]

/-- Storing what is stored already changes nothing. -/
theorem put_of_get?
    {table : Table α}
    {key : String}
    {value : α}
    (stored : table.get? key = some value) : table.put key value = table :=
  Table.ext (replace_of_find stored)

end Table

namespace Store

/-- Giving a handle back after a change of its slot.  The detached slots that
nobody holds go with it. -/
theorem Refers.release_put
    {store : Store}
    {handle : Handle}
    {slot : Slot}
    (refers : store.Refers handle slot)
    (next : Slot)
    (birth : next.birth = slot.birth) :
    { store with slots := store.slots.put handle.key next }.release handle =
      { store with
        slots :=
          store.slots.put handle.key { next with handles := next.handles - 1 }
        detached := store.detached.filter fun entry => 0 < entry.2.handles } := by
  have refersNext :
      { store with slots := store.slots.put handle.key next }.Refers
        handle next :=
    ⟨Table.get?_put_self .., birth.trans refers.2⟩
  rw [release, refersNext.modify, Table.put_put]

theorem detached_acquire (store : Store) (key : String) (initial : Bucket) :
    (store.acquire key initial).store.detached = store.detached := by
  rw [acquire, acquire?]
  cases store.slots.get? key <;> rfl

/-- Nothing is detached by a clearing when no handle is out. -/
theorem AtRest.detached_clear
    {store : Store}
    (atRest : store.AtRest) : store.clear.detached = store.detached := by
  have unheld : store.slots.entries.filter
      (fun entry => 0 < entry.2.handles) = [] := by
    rw [List.filter_eq_nil_iff]
    rintro ⟨key, slot⟩ listed
    have none := atRest key slot ((Table.get?_eq_some_iff ..).2 listed)
    simp [none]
  rw [clear, unheld, List.map_nil, List.append_nil]

end Store

namespace Limiter

/-- The store that a check leaves: the slot of its key changed, counted among the
buckets created if it had to be, and the detached slots that are still held. -/
theorem store_consume (limiter : Limiter) (key : String) :
    (limiter.consume key).1.store =
      { slots := limiter.store.slots.put key
          { limiter.slotFor key with
            bucket := ((limiter.bucketFor key).take limiter.policy
              limiter.clock.nowMs).1 }
        detached := limiter.store.detached.filter fun entry =>
          0 < entry.2.handles
        births := limiter.store.births +
          (limiter.store.slots.get? key).isNone.toNat } := by
  have refers := limiter.store.refers_acquire key
    (.full limiter.policy.capacity limiter.clock.nowMs)
  have released := refers.release_put
    { limiter.slotFor key with
      bucket := ((limiter.slotFor key).bucket.take limiter.policy
        limiter.clock.nowMs).1
      handles := (limiter.slotFor key).handles + 1 } rfl
  rw [consume, refers.settle, ← bucket_slotFor]
  refine released.trans ?_
  rw [Store.slots_acquire, Store.handle_acquire, Table.put_put,
    Store.detached_acquire, Store.births_acquire, Store.created_acquire]
  rfl

/-- A refused check is no step of a limiter without detached buckets. -/
theorem consume_of_refused
    {limiter : Limiter}
    (attached : limiter.store.detached = [])
    {key : String}
    (refused : (limiter.consume key).2.isAllowed = false) :
    (limiter.consume key).1 = limiter := by
  rw [decision_consume] at refused
  cases stored : limiter.store.slots.get? key with
  | none =>
      have fresh : limiter.bucketFor key =
          .full limiter.policy.capacity limiter.clock.nowMs :=
        bucketFor_of_none (congrArg (Option.map Slot.bucket) stored)
      rw [fresh, Bucket.isAllowed_take_full] at refused
      cases refused
  | some slot =>
      have found : limiter.slotFor key = slot :=
        Store.slotFor_of_some stored _
      have kept := Bucket.take_of_refused refused
      rw [← bucket_slotFor, found] at kept
      have same : (limiter.consume key).1.store = limiter.store := by
        have unheld : limiter.store.detached.filter
            (fun entry => 0 < entry.2.handles) = limiter.store.detached := by
          rw [attached]
          rfl
        rw [store_consume, ← bucket_slotFor, found, kept, stored, unheld,
          Table.put_of_get? stored]
        rfl
      change { limiter with store := (limiter.consume key).1.store } = limiter
      rw [same]

/-- No event of a limiter at rest detaches a bucket. -/
theorem detached_step
    {limiter : Limiter}
    (atRest : limiter.store.AtRest)
    (attached : limiter.store.detached = [])
    (event : Event) : (limiter.step event).1.store.detached = [] := by
  cases event with
  | consume key =>
      change (limiter.consume key).1.store.detached = []
      rw [store_consume, attached]
      rfl
  | evictIdle => exact attached
  | clear => exact atRest.detached_clear.trans attached
  | setClock nowMs => exact attached

theorem detached_run
    {limiter : Limiter}
    (atRest : limiter.store.AtRest)
    (attached : limiter.store.detached = [])
    (events : List Event) : (limiter.run events).1.store.detached = [] := by
  induction events generalizing limiter with
  | nil => exact attached
  | cons event events inductionHypothesis =>
      exact inductionHypothesis (atRest_step atRest event)
        (detached_step atRest attached event)

/-! ## Runs without some of their refusals -/

/-- Whether an answer refuses a check. -/
def Answer.isRefusal : Answer → Bool
  | .decision decided => !decided.isAllowed
  | _ => false

/-- A list without the items at the chosen positions. -/
def leaveOut {α : Type} (chosen : Nat → Bool) : List α → List α
  | [] => []
  | item :: items =>
      if chosen 0 then leaveOut (fun position => chosen (position + 1)) items
      else item :: leaveOut (fun position => chosen (position + 1)) items

/-- An event that is answered by a refusal is no step. -/
theorem step_of_refusal
    {limiter : Limiter}
    (attached : limiter.store.detached = [])
    {event : Event}
    (refusal : (limiter.step event).2.isRefusal = true) :
    (limiter.step event).1 = limiter := by
  cases event with
  | consume key =>
      have refused : (limiter.consume key).2.isAllowed = false :=
        Bool.not_eq_true' _ ▸ refusal
      exact consume_of_refused attached refused
  | evictIdle => cases refusal
  | clear => cases refusal
  | setClock nowMs => cases refusal

/-- A run without some of its refused checks ends where the whole run ends, and
answers all the others as the whole run does. -/
theorem run_leaveOut
    {limiter : Limiter}
    (atRest : limiter.store.AtRest)
    (attached : limiter.store.detached = [])
    {events : List Event}
    {chosen : Nat → Bool}
    (refusals : ∀ position, chosen position = true →
      (limiter.run events).2[position]?.any Answer.isRefusal = true) :
    limiter.run (leaveOut chosen events) =
      ((limiter.run events).1, leaveOut chosen (limiter.run events).2) := by
  induction events generalizing limiter chosen with
  | nil => rfl
  | cons event events inductionHypothesis =>
      have tail := inductionHypothesis (atRest_step atRest event)
        (detached_step atRest attached event) fun position isChosen =>
          refusals (position + 1) isChosen
      rw [run_cons, leaveOut, leaveOut]
      cases isChosen : chosen 0 with
      | false =>
          rw [if_neg Bool.false_ne_true, if_neg Bool.false_ne_true, run_cons,
            tail]
      | true =>
          have same := step_of_refusal attached (refusals 0 isChosen)
          rw [if_pos rfl, if_pos rfl]
          rw [same] at tail ⊢
          exact tail

/-- However the clock moves, a refused check leaves the limiter as it was, the
bucket and the last refill of every key included; and leaving out any of the
refused checks of a run changes neither another decision nor the number that a
sweep removes nor the limiter that the run ends with. -/
theorem run_without_refused_checks
    (policy : Policy)
    (clock : Clock)
    (events : List Event) :
    let whole := (start policy clock).run events
    (∀ key, (whole.1.consume key).2.isAllowed = false →
        (whole.1.consume key).1 = whole.1) ∧
      ∀ chosen : Nat → Bool,
        (∀ position, chosen position = true →
          whole.2[position]?.any Answer.isRefusal = true) →
        (start policy clock).run (leaveOut chosen events) =
          (whole.1, leaveOut chosen whole.2) := by
  have atRest := Store.atRest_empty
  constructor
  · intro key refused
    exact consume_of_refused (detached_run atRest rfl events) refused
  · intro chosen refusals
    exact run_leaveOut atRest rfl refusals

/-- Four refusals of one key, one of them while the clock stands before the epoch
and one right at the end.  Two of them are left out, and a sweep that has a
bucket to remove between them and the end still removes it. -/
theorem run_without_two_of_four_refusals :
    let limiter := start .single { nowMs := 0 }
    let events : List Event :=
      [.consume "a", .consume "a", .setClock 999, .consume "a", .consume "b",
        .setClock (-5), .consume "a", .setClock 1000, .evictIdle, .consume "a"]
    let chosen : Nat → Bool := fun position => position == 1 || position == 6
    (∀ position, chosen position = true →
        (limiter.run events).2[position]?.any Answer.isRefusal = true) ∧
      limiter.run (leaveOut chosen events) =
        ((limiter.run events).1, leaveOut chosen (limiter.run events).2) ∧
      leaveOut chosen (limiter.run events).2 =
        [.decision (.allowed 1 0 1), .done, .decision (.denied 1 1 1),
          .decision (.allowed 1 0 1), .done, .done, .evicted 1,
          .decision (.allowed 1 0 2)] ∧
      ((limiter.run events).1.consume "a").2.isAllowed = false ∧
      ((limiter.run events).1.consume "a").1 = (limiter.run events).1 := by
  intro limiter events chosen
  have refusals : ∀ position, chosen position = true →
      (limiter.run events).2[position]?.any Answer.isRefusal = true := by
    intro position isChosen
    obtain rfl | rfl : position = 1 ∨ position = 6 := by
      simpa [chosen] using isChosen
    · decide
    · decide
  have refused : ((limiter.run events).1.consume "a").2.isAllowed = false := by
    decide
  obtain ⟨unchanged, erased⟩ :=
    run_without_refused_checks .single { nowMs := 0 } events
  exact ⟨refusals, erased chosen refusals, by decide, refused,
    unchanged "a" refused⟩

end Limiter
end Turnstile
