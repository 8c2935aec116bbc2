/-!
# Rate limit decisions

The outcome of one check against a bucket.  Either answer carries the bucket's
capacity and the second at which fresh tokens are expected.
-/

namespace Turnstile

/-- What one check against a bucket decided. -/
inductive Decision where
  /-- The request may proceed, leaving `remaining` tokens. -/
  | allowed (limit remaining : UInt32) (resetSeconds : UInt64)
  /-- The bucket was empty; the client should wait `retryAfterSeconds`. -/
  | denied (limit : UInt32) (resetSeconds retryAfterSeconds : UInt64)
deriving DecidableEq, Repr

namespace Decision

/-- Whether the request may proceed. -/
def isAllowed : Decision → Bool
  | allowed .. => true
  | denied .. => false

/-- The capacity of the bucket that decided. -/
def limit : Decision → UInt32
  | allowed limit _ _ => limit
  | denied limit _ _ => limit

/-- Tokens left after the check; none when it was denied. -/
def remaining : Decision → UInt32
  | allowed _ remaining _ => remaining
  | denied .. => 0

/-- The Unix second at which the bucket next expects fresh tokens. -/
def resetSeconds : Decision → UInt64
  | allowed _ _ resetSeconds => resetSeconds
  | denied _ resetSeconds _ => resetSeconds

/-- Seconds that the client should wait; none when it was allowed. -/
def retryAfterSeconds : Decision → UInt64
  | allowed .. => 0
  | denied _ _ retryAfterSeconds => retryAfterSeconds

/-- An allowed request is not told to wait. -/
theorem retryAfterSeconds_of_allowed
    {decision : Decision}
    (isAllowed : decision.isAllowed = true) :
    decision.retryAfterSeconds = 0 := by
  cases decision with
  | allowed => rfl
  | denied => cases isAllowed

/-- A denied request leaves no tokens. -/
theorem remaining_of_refused
    {decision : Decision}
    (refused : decision.isAllowed = false) : decision.remaining = 0 := by
  cases decision with
  | allowed => cases refused
  | denied => rfl

end Decision
end Turnstile
