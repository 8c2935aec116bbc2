import Turnstile.Metrics
import Turnstile.Proofs.Tracking
import Turnstile.Store.Removal

/-!
# What a removal reports

A removal reports how far the number of stored buckets fell between its beginning
and its end.  What it takes away makes the number fall, and what other threads
create meanwhile makes it rise again: the report is the number of buckets removed
less the number of buckets created, and nothing if more were created.

Run alone, the visits of all keys make up the removal in one piece, and the report
is right.  Beside other threads it is right exactly if they created nothing or there
was nothing to remove, and else too low.
-/

namespace Turnstile
namespace Table

variable {α : Type}

/-- Testing the value of one key takes that entry away or nothing. -/
theorem length_filter_key
    (key : String)
    (keep : α → Bool)
    {entries : List (String × α)}
    (distinct : (entries.map Prod.fst).Nodup) :
    (entries.filter fun entry => entry.1 ≠ key || keep entry.2).length +
        ((find key entries).any fun value => !keep value).toNat =
      entries.length := by
  induction entries with
  | nil => rfl
  | cons entry rest inductionHypothesis =>
      obtain ⟨stored, value⟩ := entry
      rw [List.map_cons, List.nodup_cons] at distinct
      have tail := inductionHypothesis distinct.2
      by_cases same : stored = key
      · subst same
        have missing : find stored rest = none :=
          find_eq_none_of_not_mem distinct.1
        rw [missing] at tail
        change _ + 0 = rest.length at tail
        rw [find, if_pos rfl, Option.any_some, List.filter_cons, List.length_cons]
        cases kept : keep value <;> simpa [kept] using tail
      · rw [List.filter_cons_of_pos (by simp [same]), find, if_neg same,
          List.length_cons, List.length_cons]
        omega

end Table

namespace Store

/-- A visit takes the bucket of its key away or none. -/
theorem size_inspect
    (evictable : Bucket → Bool)
    (store : Store)
    (key : String) :
    (store.inspect evictable key).size +
        ((store.slots.get? key).any fun slot => !slot.isKept evictable).toNat =
      store.size :=
  Table.length_filter_key key (Slot.isKept evictable) store.slots.distinct

theorem size_acquire (store : Store) (key : String) (initial : Bucket) :
    (store.acquire key initial).store.size =
      store.size + (store.acquire key initial).created.toNat := by
  rw [size, slots_acquire, Table.size_put, created_acquire]
  rfl

/-- Working through a handle leaves the number of buckets as it is. -/
theorem size_modify
    (store : Store)
    (handle : Handle)
    (change : Slot → Slot) : (store.modify handle change).size = store.size := by
  rw [modify]
  cases stored : store.slots.get? handle.key with
  | none => rfl
  | some slot =>
      dsimp only
      split
      · rw [size, Table.size_put, stored]
        rfl
      · rfl

end Store

namespace Removal
namespace Race

/-- The key whose bucket the removal takes away in a step. -/
def evicted? (race : Race) : Step → Option String
  | .visit evictable key =>
      if race.store.contains key &&
          !(race.store.inspect evictable key).contains key then
        some key
      else none
  | _ => none

/-- The keys whose buckets the removal takes away in a schedule, in their order. -/
def evictions (race : Race) : List Step → List String
  | [] => []
  | step :: schedule =>
      (race.evicted? step).toList ++ (race.step step).evictions schedule

/-! ## One step -/

/-- A visit takes the bucket of its key away if the bucket is not to be kept. -/
theorem length_evicted?_visit
    (race : Race)
    (evictable : Bucket → Bool)
    (key : String) :
    (race.evicted? (.visit evictable key)).toList.length =
      ((race.store.slots.get? key).any fun slot =>
        !slot.isKept evictable).toNat := by
  have present : race.store.contains key =
      (race.store.slots.get? key).isSome := rfl
  have left : (race.store.inspect evictable key).contains key =
      ((race.store.slots.get? key).filter (Slot.isKept evictable)).isSome := by
    change ((race.store.inspect evictable key).slots.get? key).isSome = _
    rw [Store.get?_inspect]
    simp
  rw [evicted?, present, left]
  cases race.store.slots.get? key with
  | none => rfl
  | some slot => cases kept : slot.isKept evictable <;> simp [Option.filter, kept]

/-- What is left and what was taken away is what there was and what was created. -/
theorem size_step (race : Race) (step : Step) :
    (race.step step).store.size + (race.evicted? step).toList.length +
        race.created =
      race.store.size + (race.step step).created := by
  cases step with
  | visit evictable key =>
      have balance := race.store.size_inspect evictable key
      rw [length_evicted?_visit]
      change (race.store.inspect evictable key).size + _ + race.created =
        race.store.size + race.created
      omega
  | acquire key initial =>
      have balance := race.store.size_acquire key initial
      change (race.store.acquire key initial).store.size + 0 + race.created =
        race.store.size + (race.created + _)
      omega
  | write handle bucket =>
      change (race.store.write handle bucket).size + 0 + race.created = _
      rw [Store.write, Store.size_modify]
      rfl
  | release handle =>
      change (race.store.modify handle _).size + 0 + race.created = _
      rw [Store.size_modify]
      rfl

/-- The removal keeps count of what it takes away. -/
theorem removed_step (race : Race) (step : Step) :
    (race.step step).removal.removed =
      race.removal.removed + (race.evicted? step).toList.length := by
  cases step with
  | visit evictable key =>
      have balance := race.store.size_inspect evictable key
      rw [length_evicted?_visit]
      change race.removal.removed +
        (race.store.size - (race.store.inspect evictable key).size) = _
      omega
  | acquire key initial => rfl
  | write handle bucket => rfl
  | release handle => rfl

theorem before_step (race : Race) (step : Step) :
    (race.step step).removal.before = race.removal.before := by
  cases step <;> rfl

/-! ## A whole schedule -/

theorem size_run (race : Race) (schedule : List Step) :
    (race.run schedule).store.size + (race.evictions schedule).length +
        race.created =
      race.store.size + (race.run schedule).created := by
  induction schedule generalizing race with
  | nil => rfl
  | cons step schedule inductionHypothesis =>
      have now := race.size_step step
      have later := inductionHypothesis (race.step step)
      rw [run_cons, evictions, List.length_append]
      omega

theorem removed_run (race : Race) (schedule : List Step) :
    (race.run schedule).removal.removed =
      race.removal.removed + (race.evictions schedule).length := by
  induction schedule generalizing race with
  | nil => rfl
  | cons step schedule inductionHypothesis =>
      rw [run_cons, inductionHypothesis, removed_step, evictions,
        List.length_append, Nat.add_assoc]

theorem before_run (race : Race) (schedule : List Step) :
    (race.run schedule).removal.before = race.removal.before := by
  induction schedule generalizing race with
  | nil => rfl
  | cons step schedule inductionHypothesis =>
      rw [run_cons, inductionHypothesis, before_step]

/-- Visiting keys one by one keeps the same slots as testing all of them at once. -/
theorem store_run_visits
    (race : Race)
    (evictable : Bucket → Bool)
    (keys : List String) :
    (race.run (keys.map (.visit evictable))).store =
      { race.store with
        slots := race.store.slots.filter fun stored slot =>
          stored ∉ keys || slot.isKept evictable } := by
  induction keys generalizing race with
  | nil =>
      have all : race.store.slots.filter (fun stored slot =>
          decide (stored ∉ ([] : List String)) || slot.isKept evictable) =
          race.store.slots := by
        apply Table.ext
        simp [Table.filter]
      rw [all]
      rfl
  | cons key keys inductionHypothesis =>
      have slots : (race.store.inspect evictable key).slots.filter
            (fun stored slot => stored ∉ keys || slot.isKept evictable) =
          race.store.slots.filter fun stored slot =>
            stored ∉ key :: keys || slot.isKept evictable := by
        apply Table.ext
        simp only [Store.inspect, Table.filter, List.filter_filter]
        apply List.filter_congr
        intro entry _
        cases entry.2.isKept evictable <;> simp [Bool.and_comm]
      rw [List.map_cons, run_cons, inductionHypothesis]
      exact congrArg (fun slots => { race.store with slots }) slots

/-- Run alone, the visits of all stored keys are the removal in one piece. -/
theorem run_visits_eq_removeWhere
    (store : Store)
    (evictable : Bucket → Bool) :
    let race := (start store).run (store.slots.keys.map (.visit evictable))
    (race.store, race.report) = store.removeWhere evictable := by
  intro race
  have before : race.removal.before = store.size :=
    (start store).before_run _
  have slots : store.slots.filter
        (fun stored slot =>
          stored ∉ store.slots.keys || slot.isKept evictable) =
      store.slots.filter fun _ slot => slot.isKept evictable := by
    apply Table.ext
    apply List.filter_congr
    intro entry listed
    have stored : entry.1 ∈ store.slots.keys := List.mem_map_of_mem listed
    simp [stored]
  have left : race.store = (store.removeWhere evictable).1 := by
    refine ((start store).store_run_visits evictable _).trans ?_
    exact congrArg (fun slots => { store with slots }) slots
  rw [Race.report, Removal.report, before, left]
  rfl

/-- Beside other threads a removal reports the number of buckets that it took away,
less the number of those created meanwhile.  It reports what it took away exactly if
that was nothing or no bucket was created, and the total of evicted buckets grows by
what it reports. -/
theorem report_eq_evictions_sub_created
    (store : Store)
    (schedule : List Step) :
    let race := (start store).run schedule
    let evicted := (start store).evictions schedule
    race.removal.removed = evicted.length ∧
      race.report = evicted.length - race.created ∧
      (race.report = evicted.length ↔ evicted = [] ∨ race.created = 0) ∧
      ∀ (metrics : Metrics) (tracked : Nat),
        (metrics.recordSweep race.report tracked).evicted =
          metrics.evicted + (evicted.length - race.created) := by
  intro race evicted
  have balance : race.store.size + evicted.length + 0 =
      store.size + race.created := (start store).size_run schedule
  have before : race.removal.before = store.size :=
    (start store).before_run schedule
  have counted : race.removal.removed = 0 + evicted.length :=
    (start store).removed_run schedule
  have report : race.report = evicted.length - race.created := by
    rw [Race.report, Removal.report, before]
    omega
  refine ⟨counted.trans (Nat.zero_add _), report, ?right, ?total⟩
  case right =>
    rw [report, ← List.length_eq_zero_iff]
    omega
  case total =>
    intro metrics tracked
    rw [← report]
    rfl

/-- A bucket is created between the visit that takes another one away and the end:
one bucket is removed, and none is reported or counted. -/
theorem removed_unreported_beside_newcomer :
    let bucket : Bucket := .full 1 0
    let store := (Store.empty.acquire "a" bucket).store.release
      { key := "a", birth := 0 }
    let schedule : List Step :=
      [.visit (fun _ => true) "a", .acquire "b" bucket]
    let race := (start store).run schedule
    (start store).evictions schedule = ["a"] ∧ race.removal.removed = 1 ∧
      race.report = 0 ∧ race.report ≠ race.removal.removed ∧
      (Metrics.none.recordSweep race.report race.store.size).evicted = 0 := by
  decide

end Race
end Removal
end Turnstile
