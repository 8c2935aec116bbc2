import Turnstile.Clock
import Turnstile.Store

/-!
# The token bucket limiter

A limiter keeps one bucket per client key, all of the same policy, and reads one
clock.  A check takes a handle to the client's bucket, refills and takes a token
in one go, and gives the handle back.  Buckets that a refill would fill anyway
can be evicted at any time: a client's next bucket starts full as well.

A run is the fold of the limiter over a list of events.
-/

namespace Turnstile

/-- A policy, the buckets kept under it, and the clock that refills them. -/
structure Limiter where
  policy : Policy
  clock : Clock
  store : Store

namespace Limiter

/-- A limiter that knows no client yet. -/
def start (policy : Policy) (clock : Clock) : Limiter where
  policy := policy
  clock := clock
  store := .empty

/-- Decides one check through a handle, with the clock reading that the check
started from. -/
def settle
    (policy : Policy)
    (now : Int64)
    (store : Store)
    (handle : Handle) : Store × Decision :=
  let bucket := (store.read? handle).getD (Bucket.full policy.capacity now)
  let (taken, decision) := bucket.take policy now
  (store.write handle taken, decision)

/-- Asks for one token on behalf of a client. -/
def consume (limiter : Limiter) (key : String) : Limiter × Decision :=
  let now := limiter.clock.nowMs
  let acquired := limiter.store.acquire key (.full limiter.policy.capacity now)
  let (settled, decision) :=
    settle limiter.policy now acquired.store acquired.handle
  ({ limiter with store := settled.release acquired.handle }, decision)

/-- Removes the buckets that would be full if refilled now, and counts them. -/
def evictIdle (limiter : Limiter) : Limiter × Nat :=
  let (store, removed) :=
    limiter.store.removeWhere
      (Bucket.isReplenished limiter.policy limiter.clock.nowMs)
  ({ limiter with store }, removed)

/-- Forgets every client. -/
def clear (limiter : Limiter) : Limiter :=
  { limiter with store := limiter.store.clear }

/-- The number of clients that have a bucket. -/
def trackedKeys (limiter : Limiter) : Nat :=
  limiter.store.size

/-- What can happen to a limiter. -/
inductive Event where
  | consume (key : String)
  | evictIdle
  | clear
  | setClock (nowMs : Int64)
deriving DecidableEq, Repr

/-- What an event answers. -/
inductive Answer where
  | decision (decision : Decision)
  | evicted (removed : Nat)
  | done
deriving DecidableEq, Repr

/-- One event of a run. -/
def step (limiter : Limiter) : Event → Limiter × Answer
  | .consume key =>
      let (next, decision) := limiter.consume key
      (next, .decision decision)
  | .evictIdle =>
      let (next, removed) := limiter.evictIdle
      (next, .evicted removed)
  | .clear => (limiter.clear, .done)
  | .setClock nowMs => ({ limiter with clock := limiter.clock.set nowMs }, .done)

/-- A whole run, with one answer per event. -/
def run (limiter : Limiter) : List Event → Limiter × List Answer
  | [] => (limiter, [])
  | event :: events =>
      let (next, answer) := limiter.step event
      let (final, answers) := next.run events
      (final, answer :: answers)

/-- The policy and the number of tracked clients on one line. -/
def describe (limiter : Limiter) : String :=
  "TokenBucketLimiter \x7b policy: BucketPolicy \x7b capacity: "
    ++ Text.decimalText limiter.policy.capacity.toNat
    ++ ", refill_rate: " ++ Text.decimalText limiter.policy.refillRate.toNat
    ++ ", refill_interval_ms: "
    ++ Text.decimalText limiter.policy.intervalMs.toNat
    ++ " \x7d, tracked_keys: " ++ Text.decimalText limiter.trackedKeys
    ++ " \x7d"

@[simp] theorem run_nil (limiter : Limiter) :
    limiter.run [] = (limiter, []) := rfl

@[simp] theorem run_cons
    (limiter : Limiter)
    (event : Event)
    (events : List Event) :
    limiter.run (event :: events) =
      (((limiter.step event).1.run events).1,
        (limiter.step event).2 :: ((limiter.step event).1.run events).2) := rfl

end Limiter
end Turnstile
