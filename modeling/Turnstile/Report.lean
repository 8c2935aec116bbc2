import Turnstile.Json.Record
import Turnstile.Json.Text

/-!
# Reports

The bodies that the service answers with, written as compact JSON with their
fields in a fixed order, and read back from any JSON text of the same record.
-/

namespace Turnstile

open Calendar Json Text

/-- The report that the service is alive. -/
structure HealthReport where
  status : String
  version : String
  timestamp : Timestamp
deriving DecidableEq, Repr

/-- What rate limiting is configured to and currently holds. -/
structure StatsReport where
  isLimiting : Bool
  trackedClients : Nat
  capacity : Nat
  refillRate : Nat
  refillIntervalMs : Nat
  uptimeSeconds : Nat
deriving DecidableEq, Repr

/-- The answer of the sample endpoint. -/
structure PingReport where
  message : String
  timestamp : Timestamp
deriving DecidableEq, Repr

/-- The written form of a timestamp, as a JSON string. -/
def writeTimestamp (timestamp : Timestamp) : String :=
  writeString (String.ofList timestamp.print)

namespace HealthReport

/-- The fields of the report. -/
def schema : Schema :=
  [("status", .text), ("version", .text), ("timestamp", .timestamp)]

/-- Writes the report as JSON. -/
def write (report : HealthReport) : String :=
  writeObject [("status", writeString report.status),
    ("version", writeString report.version),
    ("timestamp", writeTimestamp report.timestamp)]

/-- Reads the report from JSON. -/
def read (text : String) : Except Fault HealthReport := do
  match ← readRecord schema text with
  | [.text status, .text version, .timestamp timestamp] =>
      return { status := String.ofList status, version := String.ofList version,
               timestamp }
  | _ => .error .shape

end HealthReport

namespace StatsReport

/-- The fields of the report. -/
def schema : Schema :=
  [("rate_limiting_enabled", .flag), ("tracked_clients", .natural UInt64.size),
    ("capacity", .natural UInt32.size), ("refill_rate", .natural UInt32.size),
    ("refill_interval_ms", .natural UInt64.size),
    ("uptime_seconds", .natural UInt64.size)]

/-- Writes the report as JSON. -/
def write (report : StatsReport) : String :=
  writeObject [("rate_limiting_enabled", writeFlag report.isLimiting),
    ("tracked_clients", decimalText report.trackedClients),
    ("capacity", decimalText report.capacity),
    ("refill_rate", decimalText report.refillRate),
    ("refill_interval_ms", decimalText report.refillIntervalMs),
    ("uptime_seconds", decimalText report.uptimeSeconds)]

/-- Reads the report from JSON. -/
def read (text : String) : Except Fault StatsReport := do
  match ← readRecord schema text with
  | [.flag isLimiting, .natural trackedClients, .natural capacity,
      .natural refillRate, .natural refillIntervalMs, .natural uptimeSeconds] =>
      return { isLimiting, trackedClients, capacity, refillRate,
               refillIntervalMs, uptimeSeconds }
  | _ => .error .shape

end StatsReport

namespace PingReport

/-- The fields of the report. -/
def schema : Schema :=
  [("message", .text), ("timestamp", .timestamp)]

/-- Writes the report as JSON. -/
def write (report : PingReport) : String :=
  writeObject [("message", writeString report.message),
    ("timestamp", writeTimestamp report.timestamp)]

/-- Reads the report from JSON. -/
def read (text : String) : Except Fault PingReport := do
  match ← readRecord schema text with
  | [.text message, .timestamp timestamp] =>
      return { message := String.ofList message, timestamp }
  | _ => .error .shape

end PingReport
end Turnstile
