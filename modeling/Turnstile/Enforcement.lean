import Turnstile.ClientKey
import Turnstile.Decision
import Turnstile.Metrics

/-!
# Enforcement

The layer in front of a service.  A request for an exempt path goes straight
through.  For any other request the limiter is asked once, under the key of the
client: an allowed request goes through and its response carries the rate limit
headers; a denied one is answered here and never reaches the service.

The limiter is any state with a check, and the service any state that answers
requests.  A service may look at the limiter but cannot change it, so nothing
it answers refunds a token.
-/

namespace Turnstile

open Http Text

/-- Writes the rate limit headers of a decision, in place of any of theirs. -/
def Http.Headers.setRateLimit (headers : Headers) (decision : Decision) : Headers :=
  let number (value : Nat) : Bytes := Utf8.ofAscii (decimal value)
  headers
    |>.set "x-ratelimit-limit" (number decision.limit.toNat)
    |>.set "x-ratelimit-remaining" (number decision.remaining.toNat)
    |>.set "x-ratelimit-reset" (number decision.resetSeconds.toNat)

/-- The body of the response to a denied request. -/
def denialBody (retryAfterSeconds : Nat) : String :=
  "\x7b\"error\":\"Too Many Requests\",\"message\":\"Rate limit exceeded. "
    ++ "Please retry after " ++ decimalText retryAfterSeconds
    ++ " seconds.\",\"retryAfter\":" ++ decimalText retryAfterSeconds ++ "\x7d"

/-- The response to a request that was denied. -/
def tooManyRequests (decision : Decision) : Response :=
  let retryAfter := decision.retryAfterSeconds.toNat
  let response := Response.ofJson 429 (denialBody retryAfter)
  { response with
    headers := (response.headers.setRateLimit decision).set "retry-after"
      (Utf8.ofAscii (decimal retryAfter)) }

/-- A rate limiter: one check for a key, in a state of any type. -/
structure Checking (σ : Type) where
  consume : σ → String → σ × Decision

/-- A service behind the layer, with a state of its own.  It may be unready, and
a call may fail; either gives an error of the service's own type. -/
structure Service (σ ι ε : Type) where
  unready? : ι → Option ε
  call : σ → ι → Request → ι × Except ε Response

/-- What became of a request. -/
structure Passage (ε : Type) where
  /-- How the request was counted, unless the service was not ready. -/
  outcome : Option Outcome
  /-- The key that the limiter was asked for. -/
  asked : Option String
  /-- Whether the request reached the service. -/
  reached : Bool
  answer : Except ε Response

/-- The states of the limiter and the service, and the figures recorded. -/
structure Guarded (σ ι : Type) where
  limiter : σ
  inner : ι
  metrics : Metrics

/-- The rules of the layer: the beginnings of exempt paths, and the resolver of
client keys. -/
structure Enforcement where
  exemptPaths : List String
  resolver : Resolver
deriving DecidableEq, Repr

namespace Enforcement

variable {σ ι ε : Type}

/-- Whether a path starts with one of the exempt beginnings. -/
def isExempt (enforcement : Enforcement) (path : String) : Bool :=
  enforcement.exemptPaths.any fun beginning =>
    beginning.toList.isPrefixOf path.toList

/-- Handles one request once the service is ready. -/
def call
    (enforcement : Enforcement)
    (checking : Checking σ)
    (service : Service σ ι ε)
    (state : Guarded σ ι)
    (request : Request) : Guarded σ ι × Passage ε :=
  if enforcement.isExempt request.path then
    let (inner, answer) := service.call state.limiter state.inner request
    ({ state with inner, metrics := state.metrics.record .exempt },
      { outcome := some .exempt, asked := none, reached := true, answer })
  else
    let key := enforcement.resolver.resolve request
    let (limiter, decision) := checking.consume state.limiter key
    if decision.isAllowed then
      let (inner, answer) := service.call limiter state.inner request
      let marked := answer.map fun response =>
        { response with headers := response.headers.setRateLimit decision }
      ({ limiter, inner, metrics := state.metrics.record .allowed },
        { outcome := some .allowed, asked := some key, reached := true,
          answer := marked })
    else
      ({ state with limiter, metrics := state.metrics.record .denied },
        { outcome := some .denied, asked := some key, reached := false,
          answer := .ok (tooManyRequests decision) })

/-- Waits for the service and then handles one request; an unready service
leaves everything as it was. -/
def drive
    (enforcement : Enforcement)
    (checking : Checking σ)
    (service : Service σ ι ε)
    (state : Guarded σ ι)
    (request : Request) : Guarded σ ι × Passage ε :=
  match service.unready? state.inner with
  | some error =>
      (state,
        { outcome := none, asked := none, reached := false, answer := .error error })
  | none => enforcement.call checking service state request

end Enforcement
end Turnstile
