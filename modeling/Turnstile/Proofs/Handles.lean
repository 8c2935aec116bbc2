import Mathlib.Data.List.Nodup
import Turnstile.Limiter

/-!
# What a store does to its slots

Each operation of the store reads and changes the slot of one key, and the
lemmas of this module say how: acquiring a handle counts one more handle on the
slot of its key, which is created if it was absent; working through a handle
that refers to a stored slot changes that slot; an eviction filters the slots.

A whole check is then one change of one slot, in which the handle taken at its
beginning and given back at its end no longer shows.
-/

namespace Turnstile
namespace Table

variable {α : Type}

theorem get?_put (table : Table α) (key other : String) (value : α) :
    (table.put key value).get? other =
      if other = key then some value else table.get? other := by
  split
  · next same =>
      rw [same, get?_put_self]
  · next distinct => exact get?_put_of_ne table distinct value

/-- A later value under the same key replaces an earlier one. -/
theorem replace_replace (key : String) (first second : α)
    (entries : List (String × α)) :
    replace key second (replace key first entries) =
      replace key second entries := by
  induction entries with
  | nil => simp [replace]
  | cons entry rest inductionHypothesis =>
      obtain ⟨stored, value⟩ := entry
      by_cases same : stored = key
      · simp [replace, same]
      · simp [replace, same, inductionHypothesis]

theorem put_put (table : Table α) (key : String) (first second : α) :
    (table.put key first).put key second = table.put key second :=
  Table.ext (replace_replace key first second table.entries)

/-- A key reads the value that it is entered with. -/
theorem find_eq_some_iff
    {entries : List (String × α)}
    (distinct : (entries.map Prod.fst).Nodup)
    (key : String)
    (value : α) : find key entries = some value ↔ (key, value) ∈ entries := by
  induction entries with
  | nil => simp [find]
  | cons entry rest inductionHypothesis =>
      obtain ⟨stored, old⟩ := entry
      rw [List.map_cons, List.nodup_cons] at distinct
      have tail := inductionHypothesis distinct.2
      by_cases same : stored = key
      · subst same
        have absent : (stored, value) ∉ rest := by
          intro member
          exact distinct.1 (List.mem_map.2 ⟨_, member, rfl⟩)
        simp [find, absent, eq_comm]
      · simp [find, same, Ne.symm same, tail]

theorem get?_eq_some_iff (table : Table α) (key : String) (value : α) :
    table.get? key = some value ↔ (key, value) ∈ table.entries :=
  find_eq_some_iff table.distinct key value

theorem mem_keys_of_get?_eq_some
    {table : Table α}
    {key : String}
    {value : α}
    (stored : table.get? key = some value) : key ∈ table.keys := by
  by_contra absent
  have missing : table.get? key = none := find_eq_none_of_not_mem absent
  rw [missing] at stored
  cases stored

/-- A stored key is listed once. -/
theorem count_keys_of_get?_eq_some
    {table : Table α}
    {key : String}
    {value : α}
    (stored : table.get? key = some value) : table.keys.count key = 1 :=
  List.count_eq_one_of_mem table.distinct (mem_keys_of_get?_eq_some stored)

end Table

namespace Store

/-- Whether a handle refers to the slot now stored under its key. -/
def Refers (store : Store) (handle : Handle) (slot : Slot) : Prop :=
  store.slots.get? handle.key = some slot ∧ slot.birth = handle.birth

theorem Refers.read?
    {store : Store}
    {handle : Handle}
    {slot : Slot}
    (refers : store.Refers handle slot) :
    store.read? handle = some slot.bucket := by
  obtain ⟨stored, birth⟩ := refers
  simp [Store.read?, slot?, stored, birth]

theorem Refers.modify
    {store : Store}
    {handle : Handle}
    {slot : Slot}
    (refers : store.Refers handle slot)
    (change : Slot → Slot) :
    store.modify handle change =
      { store with slots := store.slots.put handle.key (change slot) } := by
  obtain ⟨stored, birth⟩ := refers
  simp [Store.modify, stored, birth]

/-- A handle refers to one slot at most. -/
theorem Refers.unique
    {store : Store}
    {handle : Handle}
    {first second : Slot}
    (refers : store.Refers handle first)
    (refersAlso : store.Refers handle second) : first = second :=
  Option.some.inj (refers.1.symm.trans refersAlso.1)

/-- Handles under one key that refer to the stored slot are the same. -/
theorem Refers.handle_eq
    {store : Store}
    {first second : Handle}
    {slot other : Slot}
    (refers : store.Refers first slot)
    (refersAlso : store.Refers second other)
    (keyed : first.key = second.key) : first = second := by
  obtain ⟨stored, birth⟩ := refers
  obtain ⟨storedAlso, birthAlso⟩ := refersAlso
  rw [keyed, storedAlso] at stored
  rw [Option.some.inj stored] at birthAlso
  obtain ⟨key, firstBirth⟩ := first
  obtain ⟨otherKey, secondBirth⟩ := second
  exact congrArg₂ Handle.mk keyed (birth.symm.trans birthAlso)

theorem births_modify
    (store : Store)
    (handle : Handle)
    (change : Slot → Slot) :
    (store.modify handle change).births = store.births := by
  rw [Store.modify]
  split
  · split <;> rfl
  · rfl

/-- Giving a handle back counts one handle less on its slot. -/
theorem Refers.slots_release
    {store : Store}
    {handle : Handle}
    {slot : Slot}
    (refers : store.Refers handle slot) :
    (store.release handle).slots =
      store.slots.put handle.key { slot with handles := slot.handles - 1 } := by
  rw [release, refers.modify]

/-- Giving a handle back after a change of its slot. -/
theorem Refers.slots_release_put
    {store : Store}
    {handle : Handle}
    {slot : Slot}
    (refers : store.Refers handle slot)
    (next : Slot)
    (birth : next.birth = slot.birth) :
    ({ store with slots := store.slots.put handle.key next }.release
        handle).slots =
      store.slots.put handle.key { next with handles := next.handles - 1 } := by
  have refersNext :
      { store with slots := store.slots.put handle.key next }.Refers
        handle next :=
    ⟨Table.get?_put_self .., birth.trans refers.2⟩
  rw [refersNext.slots_release, Table.put_put]

/-- A decision through a handle works on the bucket of its slot. -/
theorem Refers.settle
    {store : Store}
    {handle : Handle}
    {slot : Slot}
    (refers : store.Refers handle slot)
    (policy : Policy)
    (now : Int64) :
    Limiter.settle policy now store handle =
      ({ store with
          slots := store.slots.put handle.key
            { slot with bucket := (slot.bucket.take policy now).1 } },
        (slot.bucket.take policy now).2) := by
  have written (bucket : Bucket) :
      store.write handle bucket =
        { store with
          slots := store.slots.put handle.key { slot with bucket } } :=
    refers.modify fun slot => { slot with bucket }
  rw [Limiter.settle, refers.read?, Option.getD_some]
  exact Prod.ext (written _) rfl

/-- The slot that a check of a key starts from: the stored one, or a new one
that nobody holds yet. -/
def slotFor (store : Store) (key : String) (initial : Bucket) : Slot :=
  (store.slots.get? key).getD
    { birth := store.births, bucket := initial, handles := 0 }

theorem slotFor_of_some
    {store : Store}
    {key : String}
    {slot : Slot}
    (stored : store.slots.get? key = some slot)
    (initial : Bucket) : store.slotFor key initial = slot := by
  rw [slotFor, stored, Option.getD_some]

theorem bucket_slotFor (store : Store) (key : String) (initial : Bucket) :
    (store.slotFor key initial).bucket =
      (store.snapshot? key).getD initial := by
  rw [slotFor, snapshot?]
  cases store.slots.get? key <;> rfl

/-- A handle found at first sight is the one that acquiring gives. -/
theorem acquire_of_acquire?
    {store found : Store}
    {key : String}
    {handle : Handle}
    (seen : store.acquire? key = some (found, handle))
    (initial : Bucket) :
    store.acquire key initial = { store := found, handle, created := false } := by
  rw [acquire, seen]

/-- Acquiring counts one handle more on the slot of the key. -/
theorem slots_acquire (store : Store) (key : String) (initial : Bucket) :
    (store.acquire key initial).store.slots =
      store.slots.put key
        { store.slotFor key initial with
          handles := (store.slotFor key initial).handles + 1 } := by
  rw [acquire, acquire?, slotFor]
  cases store.slots.get? key <;> rfl

theorem handle_acquire (store : Store) (key : String) (initial : Bucket) :
    (store.acquire key initial).handle =
      { key, birth := (store.slotFor key initial).birth } := by
  rw [acquire, acquire?, slotFor]
  cases store.slots.get? key <;> rfl

/-- A bucket is created where none is stored. -/
theorem created_acquire (store : Store) (key : String) (initial : Bucket) :
    (store.acquire key initial).created = (store.slots.get? key).isNone := by
  rw [acquire, acquire?]
  cases store.slots.get? key <;> rfl

theorem births_acquire (store : Store) (key : String) (initial : Bucket) :
    (store.acquire key initial).store.births =
      store.births + (store.acquire key initial).created.toNat := by
  rw [acquire, acquire?]
  cases store.slots.get? key <;> rfl

/-- The handle acquired refers to the slot it was taken from. -/
theorem refers_acquire (store : Store) (key : String) (initial : Bucket) :
    (store.acquire key initial).store.Refers
      (store.acquire key initial).handle
      { store.slotFor key initial with
        handles := (store.slotFor key initial).handles + 1 } := by
  constructor
  · rw [slots_acquire, handle_acquire, Table.get?_put_self]
  · rw [handle_acquire]

/-! ## Detached slots -/

/-- The first value listed for a handle. -/
def firstFor {α : Type} (handle : Handle) (entries : List (Handle × α)) : Option α :=
  (entries.find? fun entry => entry.1 = handle).map Prod.snd

section FirstFor

variable {α : Type}

theorem firstFor_cons
    (handle other : Handle)
    (value : α)
    (entries : List (Handle × α)) :
    firstFor handle ((other, value) :: entries) =
      if other = handle then some value else firstFor handle entries := by
  rw [firstFor, List.find?_cons]
  by_cases same : other = handle
  · simp [same]
  · simp [same, firstFor]

theorem mem_of_firstFor_eq_some
    {handle : Handle}
    {value : α}
    {entries : List (Handle × α)}
    (found : firstFor handle entries = some value) :
    (handle, value) ∈ entries := by
  obtain ⟨⟨other, stored⟩, seen, rfl⟩ := Option.map_eq_some_iff.1 found
  have same : other = handle := by simpa using List.find?_some seen
  subst same
  exact List.mem_of_find?_eq_some seen

/-- A value listed for a handle is the first one if there is no other. -/
theorem firstFor_eq_some
    {handle : Handle}
    {value : α}
    {entries : List (Handle × α)}
    (listed : (handle, value) ∈ entries)
    (only : ∀ other, (handle, other) ∈ entries → other = value) :
    firstFor handle entries = some value := by
  cases found : firstFor handle entries with
  | none =>
      rw [firstFor, Option.map_eq_none_iff, List.find?_eq_none] at found
      exact absurd (decide_eq_true rfl) (found (handle, value) listed)
  | some other => rw [only other (mem_of_firstFor_eq_some found)]

theorem firstFor_append
    (handle : Handle)
    (first second : List (Handle × α)) :
    firstFor handle (first ++ second) =
      (firstFor handle first).or (firstFor handle second) := by
  rw [firstFor, List.find?_append, Option.map_or]
  rfl

/-- Changing the values listed for one handle. -/
theorem firstFor_map
    (handle other : Handle)
    (change : α → α)
    (entries : List (Handle × α)) :
    firstFor other (entries.map fun entry =>
        if entry.1 = handle then (entry.1, change entry.2) else entry) =
      if other = handle then (firstFor other entries).map change
      else firstFor other entries := by
  induction entries with
  | nil => simp [firstFor]
  | cons entry entries inductionHypothesis =>
      obtain ⟨listed, value⟩ := entry
      rw [List.map_cons, firstFor_cons]
      by_cases changed : listed = handle
      · rw [if_pos changed, firstFor_cons, inductionHypothesis]
        by_cases found : listed = other
        · simp [found, ← changed]
        · simp [found]
      · rw [if_neg changed, firstFor_cons, inductionHypothesis]
        by_cases found : listed = other
        · have unchanged : other ≠ handle :=
            fun same => changed (found.trans same)
          rw [if_pos found, if_pos found, if_neg unchanged]
        · rw [if_neg found, if_neg found]

/-- A first value that is kept stays the first. -/
theorem firstFor_filter
    {handle : Handle}
    {value : α}
    {entries : List (Handle × α)}
    {keep : Handle × α → Bool}
    (found : firstFor handle entries = some value)
    (kept : keep (handle, value) = true) :
    firstFor handle (entries.filter keep) = some value := by
  induction entries with
  | nil => cases found
  | cons entry entries inductionHypothesis =>
      obtain ⟨listed, first⟩ := entry
      rw [firstFor_cons] at found
      by_cases same : listed = handle
      · rw [if_pos same] at found
        rw [Option.some.inj found, same, List.filter_cons_of_pos kept,
          firstFor_cons, if_pos rfl]
      · rw [if_neg same] at found
        rw [List.filter_cons]
        split
        · rw [firstFor_cons, if_neg same, inductionHypothesis found]
        · exact inductionHypothesis found

end FirstFor

/-- Whether a handle refers to no slot that is now stored. -/
def IsDetached (store : Store) (handle : Handle) : Prop :=
  ∀ slot, ¬store.Refers handle slot

theorem IsDetached.read?
    {store : Store}
    {handle : Handle}
    (detached : store.IsDetached handle) :
    store.read? handle = (firstFor handle store.detached).map Slot.bucket := by
  rw [Store.read?, slot?]
  cases stored : store.slots.get? handle.key with
  | none => rfl
  | some slot =>
      have other : slot.birth ≠ handle.birth :=
        fun birth => detached slot ⟨stored, birth⟩
      simp only [if_neg other]
      rfl

theorem IsDetached.modify
    {store : Store}
    {handle : Handle}
    (detached : store.IsDetached handle)
    (change : Slot → Slot) :
    store.modify handle change =
      { store with
        detached := store.detached.map fun entry =>
          if entry.1 = handle then (entry.1, change entry.2) else entry } := by
  rw [Store.modify]
  cases stored : store.slots.get? handle.key with
  | none => rfl
  | some slot =>
      have other : slot.birth ≠ handle.birth :=
        fun birth => detached slot ⟨stored, birth⟩
      simp only [if_neg other]

/-- A clearing detaches the stored slots that handles are out to. -/
theorem mem_detached_clear
    {store : Store}
    {handle : Handle}
    {slot : Slot} :
    (handle, slot) ∈ store.clear.detached ↔
      (handle, slot) ∈ store.detached ∨
        store.Refers handle slot ∧ 0 < slot.handles := by
  rw [clear, List.mem_append]
  apply or_congr_right
  simp only [List.mem_map, List.mem_filter, decide_eq_true_eq, Refers,
    Table.get?_eq_some_iff]
  constructor
  · rintro ⟨⟨key, stored⟩, ⟨listed, held⟩, same⟩
    cases same
    exact ⟨⟨listed, rfl⟩, held⟩
  · rintro ⟨⟨listed, birth⟩, held⟩
    refine ⟨(handle.key, slot), ⟨listed, held⟩, ?_⟩
    rw [birth]

theorem get?_inspect
    (evictable : Bucket → Bool)
    (store : Store)
    (key other : String) :
    (store.inspect evictable key).slots.get? other =
      (store.slots.get? other).filter fun slot =>
        other ≠ key || slot.isKept evictable := by
  rw [inspect, Table.get?_filter]

/-- Whether no handle to a stored bucket is outstanding. -/
def AtRest (store : Store) : Prop :=
  ∀ key slot, store.slots.get? key = some slot → slot.handles = 0

theorem atRest_empty : empty.AtRest := by
  intro key slot stored
  cases stored

theorem AtRest.handles_slotFor
    {store : Store}
    (atRest : store.AtRest)
    (key : String)
    (initial : Bucket) : (store.slotFor key initial).handles = 0 := by
  cases stored : store.slots.get? key with
  | none => rw [slotFor, stored, Option.getD_none]
  | some slot =>
      rw [slotFor_of_some stored]
      exact atRest key slot stored

end Store

namespace Limiter

/-- The bucket that a check of a key would work on: its own or a new one. -/
def bucketFor (limiter : Limiter) (key : String) : Bucket :=
  (limiter.store.snapshot? key).getD
    (.full limiter.policy.capacity limiter.clock.nowMs)

/-- The slot that a check of a key would work on. -/
def slotFor (limiter : Limiter) (key : String) : Slot :=
  limiter.store.slotFor key (.full limiter.policy.capacity limiter.clock.nowMs)

theorem bucket_slotFor (limiter : Limiter) (key : String) :
    (limiter.slotFor key).bucket = limiter.bucketFor key :=
  Store.bucket_slotFor ..

section Stored

variable {limiter : Limiter} {key : String}

theorem bucketFor_of_some
    {bucket : Bucket}
    (stored : limiter.store.snapshot? key = some bucket) :
    limiter.bucketFor key = bucket := by
  rw [bucketFor, stored, Option.getD_some]

theorem bucketFor_of_none (missing : limiter.store.snapshot? key = none) :
    limiter.bucketFor key =
      .full limiter.policy.capacity limiter.clock.nowMs := by
  rw [bucketFor, missing, Option.getD_none]

end Stored

/-- A check decides by the bucket of its key. -/
theorem decision_consume (limiter : Limiter) (key : String) :
    (limiter.consume key).2 =
      ((limiter.bucketFor key).take limiter.policy limiter.clock.nowMs).2 := by
  have acquired := limiter.store.refers_acquire key
    (.full limiter.policy.capacity limiter.clock.nowMs)
  rw [consume, acquired.settle, ← bucket_slotFor]
  rfl

/-- A check replaces the bucket of its key; the handle it took has been given
back. -/
theorem slots_consume (limiter : Limiter) (key : String) :
    (limiter.consume key).1.store.slots =
      limiter.store.slots.put key
        { limiter.slotFor key with
          bucket := ((limiter.bucketFor key).take limiter.policy
            limiter.clock.nowMs).1 } := by
  let initial := Bucket.full limiter.policy.capacity limiter.clock.nowMs
  let acquired := limiter.store.acquire key initial
  have refers := limiter.store.refers_acquire key initial
  have overwritten (slot : Slot) :
      acquired.store.slots.put acquired.handle.key slot =
        limiter.store.slots.put key slot := by
    rw [Store.slots_acquire, Store.handle_acquire, Table.put_put]
  have released := refers.slots_release_put
    { limiter.slotFor key with
      bucket := ((limiter.slotFor key).bucket.take limiter.policy
        limiter.clock.nowMs).1
      handles := (limiter.slotFor key).handles + 1 } rfl
  rw [consume, refers.settle, ← bucket_slotFor]
  exact released.trans (overwritten _)

end Limiter
end Turnstile
