import Turnstile.Gateway

/-!
# The sweeper

The timer of a gateway as the task that it is.  The task takes ticks from an
interval, whose first tick is due at once and each other one a period after the
one before.  It skips the first tick.  From then on it waits for the shutdown
or for a tick, looks for the shutdown first, and sweeps at each tick that it
takes.

Time goes by in milliseconds.  The task is polled when it is spawned, after each
millisecond, and when the shutdown begins.  It notes its sweeps.
-/

namespace Turnstile

open Http Settings

/-- What the task waits for. -/
inductive Sweeper.Stage where
  /-- The first tick. -/
  | opening
  /-- The shutdown, or the next tick. -/
  | waiting
  /-- Nothing any more. -/
  | ended
deriving DecidableEq, Repr

/-- A sweep that was made. -/
structure Sweeper.Sweep where
  /-- The time that the timer had run for. -/
  atMs : Nat
  /-- The gateway as the sweep met it. -/
  met : Gateway
  /-- The gateway as the sweep left it. -/
  left : Gateway

/-- A gateway with the task that sweeps it. -/
structure Sweeper where
  gateway : Gateway
  stage : Sweeper.Stage
  /-- The time at which the next tick is due. -/
  dueMs : Nat
  sweeps : List Sweeper.Sweep

namespace Sweeper

/-- Whether the next tick is due. -/
def isDue (sweeper : Sweeper) : Bool :=
  sweeper.dueMs ≤ sweeper.gateway.sleptMs

/-- Takes a tick; the next one is due a period later. -/
def tick (sweeper : Sweeper) : Sweeper :=
  { sweeper with
    dueMs := sweeper.dueMs + sweeper.gateway.config.sweepIntervalMs }

/-- Sweeps the gateway and notes it. -/
def sweep (sweeper : Sweeper) : Sweeper :=
  let swept := sweeper.gateway.sweep
  { sweeper with
    gateway := swept
    sweeps := sweeper.sweeps ++
      [{ atMs := swept.sleptMs, met := sweeper.gateway, left := swept }] }

/-- Lets the task go on, if what it waits for has come. -/
def poll (sweeper : Sweeper) : Sweeper :=
  match sweeper.stage with
  | .opening =>
      if sweeper.isDue then { sweeper.tick with stage := .waiting } else sweeper
  | .waiting =>
      if sweeper.gateway.isShuttingDown then { sweeper with stage := .ended }
      else if sweeper.isDue then sweeper.tick.sweep
      else sweeper
  | .ended => sweeper

/-- A new gateway and its task, which is spawned only if there is a limiter and
sweeping is switched on. -/
def ofParts (config : Config) (limiter : Option Limiter) : Sweeper :=
  poll {
    gateway := .ofParts config limiter
    stage :=
      if limiter.isSome && config.isSweeping then .opening else .ended
    dueMs := 0
    sweeps := [] }

/-- Lets a millisecond go by. -/
def pass (sweeper : Sweeper) : Sweeper :=
  let gateway := sweeper.gateway
  poll { sweeper with
    gateway := { gateway with sleptMs := gateway.sleptMs + 1 } }

/-- One event of a run, with the response if it was a request. -/
def step (sweeper : Sweeper) : Gateway.Event → Sweeper × Option Response
  | .request moment request =>
      let (next, response) := sweeper.gateway.handle moment request
      ({ sweeper with gateway := next }, some response)
  | .sleep millis => (Nat.repeat pass millis sweeper, none)
  | .setClock nowMs =>
      ({ sweeper with gateway := sweeper.gateway.setClock nowMs }, none)
  | .shutdown =>
      (poll { sweeper with gateway := sweeper.gateway.shutdown }, none)

/-- A whole run, with the responses to its requests. -/
def run (sweeper : Sweeper) : List Gateway.Event → Sweeper × List Response
  | [] => (sweeper, [])
  | event :: events =>
      let (next, response) := sweeper.step event
      let (final, responses) := next.run events
      (final, response.toList ++ responses)

end Sweeper
end Turnstile
