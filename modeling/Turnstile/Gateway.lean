import Turnstile.Enforcement
import Turnstile.Limiter
import Turnstile.Report
import Turnstile.Settings.Config

/-!
# The gateway

The whole service: its configuration, the limiter if there is one, the figures
recorded, and the timer that sweeps idle buckets.  Requests pass the enforcement
layer before they are routed, those for unknown paths included.

The timer fires after every whole sweep interval since the start, and never at
the start itself.  Shutting down stops it for good.

A run is the fold of the gateway over a list of events.
-/

namespace Turnstile

open Http Settings

/-- The version that the service reports. -/
def serviceVersion : String := "0.1.0"

/-- What the service answers requests for. -/
inductive Route where
  | health
  | ready
  | stats
  | ping
deriving DecidableEq, Repr

namespace Route

/-- The route of a path, which has to match exactly. -/
def ofPath? (path : String) : Option Route :=
  if path = "/health" then some health
  else if path = "/ready" then some ready
  else if path = "/stats" then some stats
  else if path = "/api/ping" then some ping
  else none

end Route

/-- The time at which a request is answered. -/
structure Moment where
  timestamp : Calendar.Timestamp
  uptimeSeconds : Nat
deriving DecidableEq, Repr

/-- The whole service. -/
structure Gateway where
  config : Config
  limiter : Option Limiter
  metrics : Metrics
  /-- The time that the timer has run for, in milliseconds. -/
  sleptMs : Nat
  isShuttingDown : Bool

namespace Gateway

/-! ## Start -/

/-- A gateway around a given limiter, or around none. -/
def ofParts (config : Config) (limiter : Option Limiter) : Gateway where
  config := config
  limiter := limiter
  metrics := .none
  sleptMs := 0
  isShuttingDown := false

/-- A gateway around a limiter of its own, whatever the configuration says. -/
def withLimiter (config : Config) (limiter : Limiter) : Gateway :=
  ofParts config (some limiter)

/-- A gateway whose limiter, if rate limiting is switched on, enforces the
policy of the configuration. -/
def start (config : Config) (clock : Clock) : Except PolicyError Gateway :=
  if config.isLimiting then do
    let policy ← config.policy
    return ofParts config (some (.start policy clock))
  else .ok (ofParts config none)

/-! ## Requests -/

/-- The number of clients that have a bucket. -/
def trackedClients (gateway : Gateway) : Nat :=
  gateway.limiter.elim 0 Limiter.trackedKeys

/-- The statistics, given the number of tracked clients. -/
def statsReport (gateway : Gateway) (moment : Moment) (tracked : Nat) :
    StatsReport where
  isLimiting := gateway.limiter.isSome
  trackedClients := tracked
  capacity := gateway.config.capacity.toNat
  refillRate := gateway.config.refillRate.toNat
  refillIntervalMs := gateway.config.refillIntervalMs.toNat
  uptimeSeconds := moment.uptimeSeconds

/-- The response of a route, given the number of tracked clients. -/
def serve
    (gateway : Gateway)
    (moment : Moment)
    (tracked : Nat) : Route → Response
  | .health =>
      .ofJson 200 (HealthReport.write
        { status := "healthy", version := serviceVersion,
          timestamp := moment.timestamp })
  | .ready => .ofStatus (if gateway.isShuttingDown then 503 else 200)
  | .stats => .ofJson 200 (gateway.statsReport moment tracked).write
  | .ping =>
      .ofJson 200 (PingReport.write
        { message := "pong", timestamp := moment.timestamp })

/-- Whether a request's method is one that the routes have. -/
def hasMethod (request : Request) : Bool :=
  request.method = "GET" || request.method = "HEAD"

/-- Routes a request that has passed the enforcement layer. -/
def respond
    (gateway : Gateway)
    (moment : Moment)
    (tracked : Nat)
    (request : Request) : Response :=
  match Route.ofPath? request.path with
  | none => .ofStatus 404
  | some route =>
      if hasMethod request then gateway.serve moment tracked route
      else .ofStatus 405

/-- The enforcement layer of the configuration. -/
def enforcement (gateway : Gateway) : Enforcement where
  exemptPaths := gateway.config.exemptPaths
  resolver := { proxies := .ofEntries gateway.config.trustedProxies }

/-- The routes as a service behind the enforcement layer.  They are always ready
and never fail. -/
def routes (gateway : Gateway) (moment : Moment) : Service Limiter Unit Empty where
  unready? _ := none
  call limiter _ request :=
    ((), .ok (gateway.respond moment limiter.trackedKeys request))

/-- The answer of a service that cannot fail. -/
def infallible : Except Empty Response → Response
  | .ok response => response
  | .error impossible => impossible.elim

/-- The last touch on a response, whichever part of the service gave it: for a path
with a route it names the methods of the route if the request's is none of them.
It takes the body away if the request asked for the headers alone, but leaves the
response to a path that starts with a slash and has no route as it is. -/
def finish (request : Request) (response : Response) : Response :=
  let isRouted := (Route.ofPath? request.path).isSome
  let headers :=
    if isRouted && !hasMethod request then
      response.headers.set "allow" (Text.Utf8.ofAscii "GET,HEAD".toList)
    else response.headers
  let isLeft := !isRouted && request.path.toList.head? = some '/'
  let body :=
    if request.method = "HEAD" && !isLeft then "" else response.body
  { response with headers, body }

/-- Handles one request. -/
def handle
    (gateway : Gateway)
    (moment : Moment)
    (request : Request) : Gateway × Response :=
  match gateway.limiter with
  | none => (gateway, finish request (gateway.respond moment 0 request))
  | some limiter =>
      let (guarded, passage) :=
        gateway.enforcement.call { consume := Limiter.consume }
          (gateway.routes moment)
          { limiter, inner := (), metrics := gateway.metrics } request
      ({ gateway with limiter := some guarded.limiter, metrics := guarded.metrics },
        finish request (infallible passage.answer))

/-! ## The timer -/

/-- Evicts idle buckets and records what came of it. -/
def sweep (gateway : Gateway) : Gateway :=
  match gateway.limiter with
  | none => gateway
  | some limiter =>
      let (swept, removed) := limiter.evictIdle
      { gateway with
        limiter := some swept
        metrics := gateway.metrics.recordSweep removed swept.trackedKeys }

/-- Whether the timer is running. -/
def isSweeping (gateway : Gateway) : Bool :=
  gateway.limiter.isSome && gateway.config.isSweeping && !gateway.isShuttingDown

/-- How often the timer fires while it runs on for some time. -/
def firings (gateway : Gateway) (millis : Nat) : Nat :=
  let interval := gateway.config.sweepIntervalMs
  (gateway.sleptMs + millis) / interval - gateway.sleptMs / interval

/-- Lets the timer run on for some time. -/
def sleep (gateway : Gateway) (millis : Nat) : Gateway :=
  let swept :=
    if gateway.isSweeping then Nat.repeat sweep (gateway.firings millis) gateway
    else gateway
  { swept with sleptMs := gateway.sleptMs + millis }

/-- Stops the timer and tells callers to turn elsewhere. -/
def shutdown (gateway : Gateway) : Gateway :=
  { gateway with isShuttingDown := true }

/-! ## Runs -/

/-- What can happen to a gateway. -/
inductive Event where
  | request (moment : Moment) (request : Request)
  | sleep (millis : Nat)
  | setClock (nowMs : Int64)
  | shutdown

/-- Sets the clock of the limiter, if there is one. -/
def setClock (gateway : Gateway) (nowMs : Int64) : Gateway :=
  { gateway with
    limiter := gateway.limiter.map fun limiter =>
      { limiter with clock := limiter.clock.set nowMs } }

/-- One event of a run, with the response if it was a request. -/
def step (gateway : Gateway) : Event → Gateway × Option Response
  | .request moment request =>
      let (next, response) := gateway.handle moment request
      (next, some response)
  | .sleep millis => (gateway.sleep millis, none)
  | .setClock nowMs => (gateway.setClock nowMs, none)
  | .shutdown => (gateway.shutdown, none)

/-- A whole run, with the responses to its requests. -/
def run (gateway : Gateway) : List Event → Gateway × List Response
  | [] => (gateway, [])
  | event :: events =>
      let (next, response) := gateway.step event
      let (final, responses) := next.run events
      (final, response.toList ++ responses)

end Gateway
end Turnstile
