import Turnstile.Store

/-!
# Removals in progress

A removal of evictable buckets as it looks to other threads: it reads the number
of stored buckets, visits keys one at a time, each visit being atomic, and in the
end reads the number again.  Between the visits other threads may store buckets
of their own, write through the handles they have taken, and give them back.

A schedule is a list of such steps; running it folds a race over them.
-/

namespace Turnstile

/-- A removal in progress: the number of buckets read at its beginning, and the
number it has removed itself. -/
structure Removal where
  before : Nat
  removed : Nat
deriving DecidableEq, Repr

namespace Removal

/-- Begins a removal. -/
def begin (store : Store) : Removal where
  before := store.size
  removed := 0

/-- Visits one key, removing its bucket if it may be evicted. -/
def visit
    (evictable : Bucket → Bool)
    (removal : Removal)
    (store : Store)
    (key : String) : Removal × Store :=
  let inspected := store.inspect evictable key
  ({ removal with removed := removal.removed + (store.size - inspected.size) },
    inspected)

/-- The number that a removal reports: how far the number of stored buckets fell
since its beginning, and zero if it did not fall. -/
def report (removal : Removal) (store : Store) : Nat :=
  removal.before - store.size

/-- What can happen next while a removal is in progress. -/
inductive Step where
  /-- The removal visits a key, with the test that it has come to. -/
  | visit (evictable : Bucket → Bool) (key : String)
  /-- Another thread takes a handle to the bucket of a key. -/
  | acquire (key : String) (initial : Bucket)
  /-- Another thread writes through a handle. -/
  | write (handle : Handle) (bucket : Bucket)
  /-- Another thread gives a handle back. -/
  | release (handle : Handle)

/-- A removal in progress beside other threads: the store that they share, and the
number of buckets that the others have created since the removal began. -/
structure Race where
  store : Store
  removal : Removal
  created : Nat

namespace Race

/-- A removal that begins. -/
def start (store : Store) : Race where
  store := store
  removal := begin store
  created := 0

/-- One step. -/
def step (race : Race) : Step → Race
  | .visit evictable key =>
      let (removal, store) := race.removal.visit evictable race.store key
      { race with removal, store }
  | .acquire key initial =>
      let acquired := race.store.acquire key initial
      { race with
        store := acquired.store
        created := race.created + acquired.created.toNat }
  | .write handle bucket =>
      { race with store := race.store.write handle bucket }
  | .release handle => { race with store := race.store.release handle }

/-- A whole schedule. -/
def run (race : Race) (schedule : List Step) : Race :=
  schedule.foldl step race

/-- The number that the removal would report now. -/
def report (race : Race) : Nat :=
  race.removal.report race.store

@[simp] theorem run_nil (race : Race) : race.run [] = race := rfl

@[simp] theorem run_cons
    (race : Race)
    (step : Step)
    (schedule : List Step) :
    race.run (step :: schedule) = (race.step step).run schedule := rfl

end Race
end Removal
end Turnstile
