import Turnstile.Text.Numeral

/-!
# Metrics

The counters and the gauge that describe admission control: requests by
outcome, buckets evicted so far, and clients tracked after the last sweep.  A
figure has a line in the exposition only once it has been recorded.
-/

namespace Turnstile

open Text

/-- How a request was handled. -/
inductive Outcome where
  | allowed
  | denied
  | exempt
deriving DecidableEq, Repr

namespace Outcome

/-- Every outcome. -/
def all : List Outcome := [allowed, denied, exempt]

/-- The label of an outcome. -/
def label : Outcome → String
  | allowed => "allowed"
  | denied => "denied"
  | exempt => "exempt"

end Outcome

/-- What the sweeps so far came to: buckets evicted in total, and clients still
tracked after the last of them. -/
structure SweepFigures where
  evicted : Nat
  tracked : Nat
deriving DecidableEq, Repr

/-- All recorded figures. -/
structure Metrics where
  allowed : Nat
  denied : Nat
  exempt : Nat
  sweeps : Option SweepFigures
deriving DecidableEq, Repr

namespace Metrics

/-- Nothing recorded. -/
def none : Metrics where
  allowed := 0
  denied := 0
  exempt := 0
  sweeps := Option.none

/-- The requests counted under an outcome. -/
def requests (metrics : Metrics) : Outcome → Nat
  | .allowed => metrics.allowed
  | .denied => metrics.denied
  | .exempt => metrics.exempt

/-- Counts one request. -/
def record (metrics : Metrics) : Outcome → Metrics
  | .allowed => { metrics with allowed := metrics.allowed + 1 }
  | .denied => { metrics with denied := metrics.denied + 1 }
  | .exempt => { metrics with exempt := metrics.exempt + 1 }

/-- All requests counted. -/
def total (metrics : Metrics) : Nat :=
  metrics.allowed + metrics.denied + metrics.exempt

/-- The buckets evicted by sweeps so far. -/
def evicted (metrics : Metrics) : Nat :=
  metrics.sweeps.elim 0 SweepFigures.evicted

/-- Records what one sweep removed and left. -/
def recordSweep (metrics : Metrics) (removed tracked : Nat) : Metrics :=
  { metrics with sweeps := some { evicted := metrics.evicted + removed, tracked } }

/-- The exposition line of an outcome, once a request was counted under it. -/
def requestLine (metrics : Metrics) (outcome : Outcome) : Option String :=
  if metrics.requests outcome = 0 then Option.none
  else some ("tollgate_requests_total\x7boutcome=\"" ++ outcome.label ++ "\"\x7d "
    ++ decimalText (metrics.requests outcome))

/-- The exposition lines in alphabetical order. -/
def lines (metrics : Metrics) : List String :=
  let evicted := metrics.sweeps.map fun figures =>
    "tollgate_buckets_evicted_total " ++ decimalText figures.evicted
  let tracked := metrics.sweeps.map fun figures =>
    "tollgate_tracked_clients " ++ decimalText figures.tracked
  evicted.toList ++ Outcome.all.filterMap metrics.requestLine ++ tracked.toList

@[simp] theorem total_none : none.total = 0 := rfl

/-- Recording an outcome counts exactly one request. -/
theorem total_record (metrics : Metrics) (outcome : Outcome) :
    (metrics.record outcome).total = metrics.total + 1 := by
  cases outcome <;> simp [record, total] <;> omega

end Metrics
end Turnstile
