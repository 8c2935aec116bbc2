import Turnstile.Proofs.Runs

/-!
# How many clients are tracked

The number of stored buckets, operation by operation: a check adds one if its key
has none, and a sweep reports exactly those that it takes away.  A second sweep at
the same instant finds nothing left to take.
-/

namespace Turnstile
namespace Table

variable {α : Type}

theorem mem_keys_iff (table : Table α) (key : String) :
    key ∈ table.keys ↔ (table.get? key).isSome = true := by
  cases stored : table.get? key with
  | none =>
      rw [Option.isSome_none]
      refine ⟨fun member => ?_, nofun⟩
      obtain ⟨⟨_, value⟩, listed, rfl⟩ := List.mem_map.1 member
      rw [(table.get?_eq_some_iff _ value).2 listed] at stored
      cases stored
  | some value => exact ⟨fun _ => rfl, fun _ => mem_keys_of_get?_eq_some stored⟩

/-- Putting a key adds an entry if the key is new. -/
theorem size_put (table : Table α) (key : String) (value : α) :
    (table.put key value).size =
      table.size + (table.get? key).isNone.toNat := by
  have length := congrArg List.length (map_fst_replace key value table.entries)
  have listed := table.mem_keys_iff key
  rw [keys] at listed
  rw [List.length_map] at length
  change (replace key value table.entries).length = table.entries.length + _
  rw [length]
  cases stored : table.get? key with
  | none =>
      rw [stored] at listed
      rw [if_neg (mt listed.1 nofun), List.length_append, List.length_map]
      rfl
  | some value =>
      rw [stored] at listed
      rw [if_pos (listed.2 rfl), List.length_map]
      rfl

theorem size_filter_le (table : Table α) (keep : String → α → Bool) :
    (table.filter keep).size ≤ table.size :=
  List.length_filter_le ..

/-- Filtering a second time by the same test takes nothing away. -/
theorem filter_filter (table : Table α) (keep : String → α → Bool) :
    (table.filter keep).filter keep = table.filter keep := by
  apply Table.ext
  simp [filter, List.filter_filter]

end Table

namespace Limiter

/-- A check tracks one client more if its key has no bucket. -/
theorem trackedKeys_consume (limiter : Limiter) (key : String) :
    (limiter.consume key).1.trackedKeys =
      limiter.trackedKeys + (!limiter.store.contains key).toNat := by
  rw [trackedKeys, Store.size, slots_consume, Table.size_put, Store.contains,
    Table.contains, Option.not_isSome]
  rfl

/-- A sweep reports the buckets that it takes away. -/
theorem removed_add_trackedKeys_evictIdle (limiter : Limiter) :
    limiter.evictIdle.2 + limiter.evictIdle.1.trackedKeys =
      limiter.trackedKeys :=
  Nat.sub_add_cancel (Table.size_filter_le ..)

/-- A second sweep at the same instant finds nothing to take away. -/
theorem removed_evictIdle_evictIdle (limiter : Limiter) :
    limiter.evictIdle.1.evictIdle.2 = 0 := by
  have same : limiter.evictIdle.1.evictIdle.1.store.slots =
      limiter.evictIdle.1.store.slots :=
    Table.filter_filter limiter.store.slots fun _ slot =>
      slot.isKept (Bucket.isReplenished limiter.policy limiter.clock.nowMs)
  have balance := removed_add_trackedKeys_evictIdle limiter.evictIdle.1
  rw [trackedKeys, trackedKeys, Store.size, Store.size, same] at balance
  omega

end Limiter
end Turnstile
