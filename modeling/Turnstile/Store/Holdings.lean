import Turnstile.Store

/-!
# Named handles

Handles kept under names of the holder's choice.  Holding a name a second time
gives the earlier handle back.
-/

namespace Turnstile

/-- The handles a holder keeps, by name. -/
abbrev Holdings := Table Handle

namespace Holdings

/-- What holding a bucket under a name came to. -/
structure Held where
  store : Store
  holdings : Holdings
  bucket : Option Bucket
  created : Bool
  /-- The names that already held the very same bucket. -/
  sameAs : List String

/-- Takes a handle to the bucket of a key and keeps it under a name. -/
def hold
    (holdings : Holdings)
    (store : Store)
    (name key : String)
    (initial : Bucket) : Held :=
  let acquired := store.acquire key initial
  let sharing :=
    holdings.entries.filter fun entry => entry.2 = acquired.handle
  let settled :=
    match holdings.get? name with
    | some earlier => acquired.store.release earlier
    | none => acquired.store
  { store := settled
    holdings := holdings.put name acquired.handle
    bucket := settled.read? acquired.handle
    created := acquired.created
    sameAs := sharing.map Prod.fst }

/-- The bucket seen through a named handle. -/
def read? (holdings : Holdings) (store : Store) (name : String) : Option Bucket :=
  (holdings.get? name).bind store.read?

/-- Gives a named handle back, and tells whether there was one. -/
def release
    (holdings : Holdings)
    (store : Store)
    (name : String) : Holdings × Store × Bool :=
  match holdings.get? name with
  | some handle => (holdings.erase name, store.release handle, true)
  | none => (holdings, store, false)

end Holdings
end Turnstile
