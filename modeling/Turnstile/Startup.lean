import Turnstile.Gateway
import Turnstile.Net.Machine
import Turnstile.Text.Quoted
import Turnstile.Text.Terminal

/-!
# Start-up

What the program logs and how it exits: it reads its configuration, opens the
metrics endpoint, sets up rate limiting, binds its address, serves until it is
told to stop, and shuts down.  Each step that fails ends it with an exit code of
its own, except that metrics are done without.
-/

namespace Turnstile
namespace Startup

open Net Settings Text

/-- How urgent a log line is. -/
inductive Level where
  | info
  | warn
  | error
deriving DecidableEq, Repr

namespace Level

/-- The name of a level. -/
def name : Level → String
  | info => "INFO"
  | warn => "WARN"
  | error => "ERROR"

end Level

/-- A line of the log: a message from a part of the program, with named values. -/
structure LogLine where
  level : Level
  source : String
  message : String
  fields : List (String × String)
deriving DecidableEq, Repr

namespace LogLine

/-- A named value as it is written after the message. -/
def fieldText (field : String × String) : String :=
  " " ++ field.1 ++ "=" ++ field.2

/-- The text of a line after its level.  The message is written for a terminal,
the values as they are. -/
def text (line : LogLine) : String :=
  line.source ++ ": " ++ forTerminal line.message
    ++ String.join (line.fields.map fieldText)

end LogLine

/-- What tells the program to stop. -/
inductive Signal where
  | interrupt
  | terminate
deriving DecidableEq, Repr

namespace Signal

/-- What the log calls a signal. -/
def name : Signal → String
  | interrupt => "Ctrl+C"
  | terminate => "SIGTERM"

end Signal

/-- How the program exits. -/
inductive Exit where
  | success
  | unavailable
  | misconfigured
deriving DecidableEq, Repr

namespace Exit

/-- The exit code. -/
def code : Exit → Nat
  | success => 0
  | unavailable => 69
  | misconfigured => 78

end Exit

/-- The log of a run of the program and its exit. -/
structure Course where
  log : List LogLine
  exit : Exit
deriving DecidableEq, Repr

/-! ## Log lines -/

/-- An informational line of the program itself. -/
def info (message : String) : LogLine where
  level := .info
  source := "tollgate"
  message := message
  fields := []

/-- An error line of the program itself. -/
def failure (message : String) : LogLine where
  level := .error
  source := "tollgate"
  message := message
  fields := []

/-- A policy as named values. -/
def policyFields (capacity refillRate intervalMs : Nat) : List (String × String) :=
  [("capacity", decimalText capacity),
    ("refill_rate", decimalText refillRate),
    ("refill_interval_ms", decimalText intervalMs)]

/-- The line on the configuration that was read. -/
def configLine (config : Config) : LogLine :=
  { info "Configuration loaded" with
    fields :=
      [("host", config.host), ("port", decimalText config.port.toNat)]
        ++ policyFields config.capacity.toNat config.refillRate.toNat
          config.refillIntervalMs.toNat }

/-- The line on a metrics endpoint that is listened on. -/
def metricsLine (endpoint : Endpoint) : LogLine where
  level := .info
  source := "tollgate::metrics"
  message := "Prometheus metrics endpoint started"
  fields := [("addr", String.ofList endpoint.print)]

/-- The line on a metrics endpoint that is refused. -/
def noMetricsLine (refusal : Refusal) : LogLine where
  level := .error
  source := "tollgate::metrics"
  message := "Failed to initialize metrics, continuing without metrics"
  fields :=
    [("error", "Failed to install Prometheus exporter: "
      ++ "failed to create HTTP listener: " ++ refusal.message)]

/-- The line on a policy in force. -/
def limitingLine (config : Config) (policy : Policy) : LogLine where
  level := .info
  source := "tollgate::routes"
  message := "Rate limiting enabled"
  fields :=
    policyFields policy.capacity.toNat policy.refillRate.toNat
        policy.intervalMs.toNat
      ++ [("exempt_paths", quoteAll config.exemptPaths),
        ("trusted_proxies", decimalText config.trustedProxies.length)]

/-- The line on a proxy entry that is skipped. -/
def skippedLine (invalid : InvalidCidr) : LogLine where
  level := .warn
  source := "tollgate::middleware::proxy"
  message := "Skipping entry in TRUSTED_PROXIES"
  fields := [("error", invalid.message)]

/-- The lines on rate limiting: the policy in force and the proxy entries that
are skipped, or that there is none. -/
def limitingLines (config : Config) (policy : Option Policy) : List LogLine :=
  match policy with
  | none =>
      [{ level := .info, source := "tollgate::routes",
         message := "Rate limiting disabled (RATE_LIMIT_CAPACITY=0)",
         fields := [] }]
  | some policy =>
      limitingLine config policy
        :: (TrustedProxies.rejected config.trustedProxies).map skippedLine

/-- The lines of a program that serves. -/
def servingLines (endpoint : Endpoint) : List LogLine :=
  [info ("Server listening on http://" ++ String.ofList endpoint.print),
    info "API endpoints:",
    info "  GET  /health    - Health check (not rate limited)",
    info "  GET  /ready     - Readiness check (not rate limited)",
    info "  GET  /stats     - Rate limiter statistics",
    info "  GET  /api/ping  - Sample rate-limited endpoint"]

/-- The lines of a program that is told to stop. -/
def stoppingLines (signal : Signal) : List LogLine :=
  let state (message : String) : LogLine :=
    { level := .info, source := "tollgate::state", message, fields := [] }
  [{ level := .warn, source := "tollgate::utils",
     message := "Received " ++ signal.name ++ ", draining connections",
     fields := [] },
    info "HTTP server stopped, shutting down background tasks...",
    state "Initiating graceful shutdown of background tasks",
    state "All background tasks have completed",
    info "Server shutdown complete"]

/-! ## Courses -/

/-- The first line of every log. -/
def greeting : LogLine :=
  info ("Starting tollgate v" ++ serviceVersion)

/-- Listens on the metrics endpoint of a configuration, if it has one. -/
def openMetrics (machine : Machine) (config : Config) : Machine × List LogLine :=
  match config.metricsEndpoint with
  | none => (machine, [])
  | some endpoint =>
      match machine.listen endpoint with
      | .ok listening => (listening, [metricsLine endpoint])
      | .error refusal => (machine, [noMetricsLine refusal])

/-- Brings the service up from a configuration on a machine: the log so far, and
the service or the exit. -/
def bringUp
    (machine : Machine)
    (clock : Clock)
    (config : Config) : List LogLine × Except Exit Gateway :=
  let (machine, metricsLines) := openMetrics machine config
  let opened := configLine config :: metricsLines
  match Gateway.start config clock with
  | .error cause =>
      (opened ++
        [failure ("Failed to initialize rate limiter: " ++ policyMessage cause)],
        .error .misconfigured)
  | .ok gateway =>
      let policy := gateway.limiter.map Limiter.policy
      let ready := opened ++ limitingLines config policy
      match Endpoint.read? config.serverAddress.toList with
      | none =>
          (ready ++
            [failure "Invalid server address: invalid socket address syntax"],
            .error .misconfigured)
      | some endpoint =>
          match machine.refusal? endpoint with
          | some refusal =>
              (ready ++
                [failure ("Failed to bind to " ++ String.ofList endpoint.print
                  ++ ": " ++ refusal.message)],
                .error .unavailable)
          | none => (ready ++ servingLines endpoint, .ok gateway)

/-- Reads the configuration from an environment with an environment file, and
brings the service up. -/
def launch
    (environment : Environment)
    (file : Option String)
    (machine : Machine)
    (clock : Clock) : List LogLine × Except Exit Gateway :=
  match Config.ofEnvironment environment file with
  | .error error =>
      ([greeting, failure ("Configuration error: " ++ error.message)],
        .error .misconfigured)
  | .ok config =>
      let (log, launched) := bringUp machine clock config
      (greeting :: log, launched)

/-- The course of a program that is told to stop as soon as it serves. -/
def run
    (environment : Environment)
    (file : Option String)
    (machine : Machine)
    (clock : Clock)
    (signal : Signal) : Course :=
  match launch environment file machine clock with
  | (log, .error exit) => { log, exit }
  | (log, .ok _) => { log := log ++ stoppingLines signal, exit := .success }

end Startup
end Turnstile
