import Turnstile.Net.Endpoint
import Turnstile.Policy
import Turnstile.Settings.Dotenv
import Turnstile.Settings.Variable
import Turnstile.Text.Fields

/-!
# Configuration

Everything that is fixed at start-up.  A configuration is read from the texts of
the settings variables, each of which has a default, and is then checked as a
whole: unless rate limiting is switched off by a capacity of zero, its rate
limit settings have to form a policy.
-/

namespace Turnstile
namespace Settings

open Text

/-- Everything that is fixed at start-up. -/
structure Config where
  host : String
  port : UInt16
  /-- The capacity of a bucket; zero switches rate limiting off. -/
  capacity : UInt32
  refillRate : UInt32
  refillIntervalMs : UInt64
  exemptPaths : List String
  trustedProxies : List String
  /-- The time between two sweeps; zero switches sweeping off. -/
  sweepIntervalMs : Nat
  /-- The port of the metrics endpoint; zero switches it off. -/
  metricsPort : UInt16
deriving DecidableEq, Repr

/-- Why settings do not form a configuration. -/
inductive ConfigError where
  | invalidInteger (setting : Variable) (cause : IntegerError)
  | relativeExemptPath (entry : String)
  | zeroRefillRate
  | zeroRefillInterval
  | invalidPolicy (cause : PolicyError)
deriving DecidableEq, Repr

/-- The text reported where settings do not form a policy. -/
def policyMessage (error : PolicyError) : String :=
  "Invalid rate limit configuration: " ++ error.message

namespace ConfigError

/-- What is wrong with the settings. -/
def detail : ConfigError → String
  | invalidInteger setting cause =>
      "Invalid " ++ setting.name ++ ": " ++ cause.message
  | relativeExemptPath entry =>
      Variable.exemptPaths.name ++ " entry '" ++ entry ++ "' must start with '/'"
  | zeroRefillRate => Variable.refillRate.name ++ " must be greater than 0"
  | zeroRefillInterval => Variable.refillInterval.name ++ " must be greater than 0"
  | invalidPolicy cause => policyMessage cause

/-- The text reported for rejected settings. -/
def message (error : ConfigError) : String :=
  "Configuration error: " ++ error.detail

end ConfigError

/-! ## Lists -/

/-- The entries of a comma-separated list, trimmed and without the blank ones. -/
def listEntries (text : List Char) : List (List Char) :=
  ((split ',' text).map trim).filter fun entry => !entry.isEmpty

/-- The entries of a comma-separated list. -/
def readList (text : String) : List String :=
  (listEntries text.toList).map String.ofList

/-- The entries of a list of paths, each of which has to start with a slash. -/
def readPaths (text : String) : Except ConfigError (List String) :=
  let paths := readList text
  match paths.find? fun path => path.toList.head? ≠ some '/' with
  | some entry => .error (.relativeExemptPath entry)
  | none => .ok paths

/-! ## Configurations -/

namespace Config

/-- The configuration of an environment that sets nothing. -/
def standard : Config where
  host := "0.0.0.0"
  port := 3000
  capacity := 100
  refillRate := 10
  refillIntervalMs := 1000
  exemptPaths := ["/health", "/ready"]
  trustedProxies := []
  sweepIntervalMs := 60000
  metricsPort := 0

/-- Whether rate limiting is switched on. -/
def isLimiting (config : Config) : Bool :=
  0 < config.capacity

/-- Whether idle buckets are swept. -/
def isSweeping (config : Config) : Bool :=
  config.sweepIntervalMs ≠ 0

/-- Whether metrics are exposed. -/
def isMeasured (config : Config) : Bool :=
  0 < config.metricsPort

/-- The policy that the rate limit settings form. -/
def policy (config : Config) : Except PolicyError Policy :=
  Policy.make config.capacity config.refillRate config.refillIntervalMs

/-- The text of the address that the service listens on. -/
def serverAddress (config : Config) : String :=
  config.host ++ ":" ++ decimalText config.port.toNat

/-- The endpoint that metrics are exposed on. -/
def metricsEndpoint (config : Config) : Option Net.Endpoint :=
  if config.isMeasured then
    some { address := .v4 0, scope := 0, port := config.metricsPort }
  else none

/-- Checks the settings as a whole. -/
def validate (config : Config) : Except ConfigError Unit :=
  if !config.isLimiting then .ok ()
  else if config.refillRate = 0 then .error .zeroRefillRate
  else if config.refillIntervalMs = 0 then .error .zeroRefillInterval
  else
    match config.policy with
    | .ok _ => .ok ()
    | .error cause => .error (.invalidPolicy cause)

/-- Reads an integer setting below a bound, between blanks. -/
def readSetting
    (assignment : Assignment)
    (setting : Variable)
    (bound standard : Nat) : Except ConfigError Nat :=
  match assignment setting with
  | none => .ok standard
  | some text =>
      match readInteger bound (trim text.toList) with
      | .ok value => .ok value
      | .error cause => .error (.invalidInteger setting cause)

/-- Reads every setting; the first bad one is reported. -/
def readAll (assignment : Assignment) : Except ConfigError Config := do
  let port ← readSetting assignment .port UInt16.size 3000
  let capacity ← readSetting assignment .capacity UInt32.size 100
  let refillRate ← readSetting assignment .refillRate UInt32.size 10
  let refillInterval ← readSetting assignment .refillInterval UInt64.size 1000
  let exemptPaths ← readPaths ((assignment .exemptPaths).getD "/health,/ready")
  let sweepSeconds ← readSetting assignment .sweepInterval UInt64.size 60
  let metricsPort ← readSetting assignment .metricsPort UInt16.size 0
  return {
    host := (assignment .host).getD "0.0.0.0"
    port := UInt16.ofNat port
    capacity := UInt32.ofNat capacity
    refillRate := UInt32.ofNat refillRate
    refillIntervalMs := UInt64.ofNat refillInterval
    exemptPaths
    trustedProxies := readList ((assignment .trustedProxies).getD "")
    sweepIntervalMs := sweepSeconds * 1000
    metricsPort := UInt16.ofNat metricsPort }

/-- Reads a configuration and checks it as a whole. -/
def ofAssignment (assignment : Assignment) : Except ConfigError Config := do
  let config ← readAll assignment
  config.validate
  return config

/-- Reads a configuration from an environment, after an environment file has
supplied what the environment leaves unset. -/
def ofEnvironment
    (environment : Environment)
    (file : Option String) : Except ConfigError Config :=
  let supplied :=
    match file with
    | some text => Dotenv.supply environment text
    | none => environment
  ofAssignment fun setting => supplied.text? setting.name

end Config
end Settings
end Turnstile
