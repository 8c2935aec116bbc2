/-!
# Settings variables

The variables that configure the service, and the texts they are set to.
-/

namespace Turnstile
namespace Settings

/-- The variables that configure the service. -/
inductive Variable where
  | host
  | port
  | capacity
  | refillRate
  | refillInterval
  | exemptPaths
  | trustedProxies
  | sweepInterval
  | metricsPort
deriving DecidableEq, Repr

namespace Variable

/-- Every variable. -/
def all : List Variable :=
  [host, port, capacity, refillRate, refillInterval, exemptPaths, trustedProxies,
    sweepInterval, metricsPort]

/-- The name of a variable in the environment. -/
def name : Variable → String
  | host => "HOST"
  | port => "PORT"
  | capacity => "RATE_LIMIT_CAPACITY"
  | refillRate => "RATE_LIMIT_REFILL_RATE"
  | refillInterval => "RATE_LIMIT_REFILL_INTERVAL_MS"
  | exemptPaths => "RATE_LIMIT_EXEMPT_PATHS"
  | trustedProxies => "TRUSTED_PROXIES"
  | sweepInterval => "BUCKET_SWEEP_INTERVAL_SECS"
  | metricsPort => "METRICS_PORT"

end Variable

/-- The text that each variable is set to, if it is set. -/
abbrev Assignment := Variable → Option String

end Settings
end Turnstile
