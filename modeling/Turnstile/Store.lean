import Turnstile.Bucket
import Turnstile.Table

/-!
# The bucket store

Every bucket of a limiter is stored under its client's key.  A request works on
a bucket through a handle: acquiring one creates the bucket if the key has none,
and a bucket with an outstanding handle is never evicted.  Clearing the store
forgets all keys at once; a handle from before keeps its bucket, which is then
detached from the store.

A handle names the creation that made its bucket, so that two handles for one
key can be told apart when the key was cleared and stored anew in between.
-/

namespace Turnstile

/-- A stored bucket, the creation that made it, and the number of handles to it
that are still outstanding. -/
structure Slot where
  birth : Nat
  bucket : Bucket
  handles : Nat
deriving DecidableEq, Repr

/-- A claim on the bucket that one creation stored under a key. -/
structure Handle where
  key : String
  birth : Nat
deriving DecidableEq, Repr

/-- The buckets by key, the detached buckets that handles still refer to, and
the number of buckets created so far. -/
structure Store where
  slots : Table Slot
  detached : List (Handle × Slot)
  births : Nat

namespace Store

/-- The store without buckets. -/
def empty : Store where
  slots := .empty
  detached := []
  births := 0

instance : Inhabited Store := ⟨empty⟩

/-- The number of stored buckets. -/
def size (store : Store) : Nat :=
  store.slots.size

/-- Whether no bucket is stored. -/
def isEmpty (store : Store) : Bool :=
  store.size == 0

/-- Whether a bucket is stored under a key. -/
def contains (store : Store) (key : String) : Bool :=
  store.slots.contains key

/-- The bucket stored under a key. -/
def snapshot? (store : Store) (key : String) : Option Bucket :=
  (store.slots.get? key).map Slot.bucket

/-- Takes a handle to the bucket of a key, if the key has one. -/
def acquire? (store : Store) (key : String) : Option (Store × Handle) :=
  (store.slots.get? key).map fun slot =>
    ({ store with
        slots := store.slots.put key { slot with handles := slot.handles + 1 } },
      { key, birth := slot.birth })

/-- A store together with the handle just taken from it, and whether its bucket
had to be created. -/
structure Acquired where
  store : Store
  handle : Handle
  created : Bool

/-- Takes a handle to the bucket of a key, storing the initial bucket if the key
has none. -/
def acquire (store : Store) (key : String) (initial : Bucket) : Acquired :=
  match store.acquire? key with
  | some (store, handle) => { store, handle, created := false }
  | none =>
      let slot : Slot := { birth := store.births, bucket := initial, handles := 1 }
      { store := { store with
          slots := store.slots.put key slot
          births := store.births + 1 }
        handle := { key, birth := store.births }
        created := true }

/-- The slot that a handle refers to: the stored one of its key if that is the
same creation, else a detached one. -/
def slot? (store : Store) (handle : Handle) : Option Slot :=
  match store.slots.get? handle.key with
  | some slot =>
      if slot.birth = handle.birth then some slot
      else (store.detached.find? fun entry => entry.1 = handle).map Prod.snd
  | none => (store.detached.find? fun entry => entry.1 = handle).map Prod.snd

/-- The bucket that a handle refers to. -/
def read? (store : Store) (handle : Handle) : Option Bucket :=
  (store.slot? handle).map Slot.bucket

/-- Changes the slot that a handle refers to, wherever it lives. -/
def modify (store : Store) (handle : Handle) (change : Slot → Slot) : Store :=
  let changeDetached (entry : Handle × Slot) : Handle × Slot :=
    if entry.1 = handle then (entry.1, change entry.2) else entry
  match store.slots.get? handle.key with
  | some slot =>
      if slot.birth = handle.birth then
        { store with slots := store.slots.put handle.key (change slot) }
      else { store with detached := store.detached.map changeDetached }
  | none => { store with detached := store.detached.map changeDetached }

/-- Writes a bucket through a handle. -/
def write (store : Store) (handle : Handle) (bucket : Bucket) : Store :=
  store.modify handle fun slot => { slot with bucket }

/-- Gives a handle back.  A detached bucket lasts as long as its handles. -/
def release (store : Store) (handle : Handle) : Store :=
  let released :=
    store.modify handle fun slot => { slot with handles := slot.handles - 1 }
  { released with
    detached := released.detached.filter fun entry => 0 < entry.2.handles }

/-- Forgets every key.  Buckets with outstanding handles become detached. -/
def clear (store : Store) : Store :=
  let held := store.slots.entries.filter fun entry => 0 < entry.2.handles
  { store with
    slots := .empty
    detached := store.detached ++
      held.map fun entry => ({ key := entry.1, birth := entry.2.birth }, entry.2) }

end Store

namespace Slot

/-- Whether an eviction by the given test leaves the slot in the store: it does
while a handle is outstanding, whatever the test thinks of the bucket. -/
def isKept (evictable : Bucket → Bool) (slot : Slot) : Bool :=
  0 < slot.handles || !evictable slot.bucket

end Slot

namespace Store

/-- Looks at the bucket of one key and removes it if it may be evicted. -/
def inspect (evictable : Bucket → Bool) (store : Store) (key : String) : Store :=
  { store with
    slots := store.slots.filter fun stored slot =>
      stored ≠ key || slot.isKept evictable }

/-- Removes every bucket that may be evicted, and counts how far the number of
stored buckets fell. -/
def removeWhere (store : Store) (evictable : Bucket → Bool) : Store × Nat :=
  let remaining : Store :=
    { store with slots := store.slots.filter fun _ slot => slot.isKept evictable }
  (remaining, store.size - remaining.size)

@[simp] theorem snapshot?_empty (key : String) :
    empty.snapshot? key = none := rfl

@[simp] theorem size_empty : empty.size = 0 := rfl

@[simp] theorem snapshot?_clear (store : Store) (key : String) :
    store.clear.snapshot? key = none := rfl

end Store
end Turnstile
