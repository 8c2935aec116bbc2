import Turnstile.Proofs.Enforcement.Accounting
import Turnstile.Gateway

/-!
# What a request does to a gateway

All that a request does to a gateway is settled by its limiter check: what the
check leaves, and the figure that the decision is counted under.  The response
is the router's, asked with the clients tracked after the check, or the refusal.

An exempt request makes no check, and no request makes one if there is no
limiter.
-/

namespace Turnstile
namespace Gateway

open Http

/-! ## One request -/

/-- What the limiter decides on a request, if the request is checked at all. -/
def decision? (gateway : Gateway) (request : Request) : Option Decision :=
  gateway.limiter.bind fun limiter =>
    if gateway.enforcement.isExempt request.path then none
    else some (limiter.consume (gateway.enforcement.resolver.resolve request)).2

/-- Whether a decision is a refusal. -/
def isRefusal (decision : Option Decision) : Bool :=
  decision.any fun decided => !decided.isAllowed

/-- How a request is counted. -/
def outcome : Option Decision → Outcome
  | none => .exempt
  | some decided => if decided.isAllowed then .allowed else .denied

/-- The limiter after its check of a request. -/
def checkedLimiter
    (gateway : Gateway)
    (request : Request)
    (limiter : Limiter) : Limiter :=
  if gateway.enforcement.isExempt request.path then limiter
  else (limiter.consume (gateway.enforcement.resolver.resolve request)).1

/-- A gateway after a request. -/
def charge (gateway : Gateway) (request : Request) : Gateway :=
  match gateway.limiter with
  | none => gateway
  | some limiter =>
      { gateway with
        limiter := some (gateway.checkedLimiter request limiter)
        metrics := gateway.metrics.record (outcome (gateway.decision? request)) }

/-- The response to a request before the last touch. -/
def answer
    (gateway : Gateway)
    (moment : Moment)
    (tracked : Nat)
    (request : Request) : Option Decision → Response
  | none => gateway.respond moment tracked request
  | some decided =>
      if decided.isAllowed then
        let response := gateway.respond moment tracked request
        { response with headers := response.headers.setRateLimit decided }
      else tooManyRequests decided

theorem limiter_charge (gateway : Gateway) (request : Request) :
    (gateway.charge request).limiter =
      gateway.limiter.map (gateway.checkedLimiter request) := by
  rw [charge]
  cases present : gateway.limiter with
  | none => exact present
  | some limiter => rfl

@[simp] theorem config_charge (gateway : Gateway) (request : Request) :
    (gateway.charge request).config = gateway.config := by
  rw [charge]
  split <;> rfl

@[simp] theorem sleptMs_charge (gateway : Gateway) (request : Request) :
    (gateway.charge request).sleptMs = gateway.sleptMs := by
  rw [charge]
  split <;> rfl

@[simp] theorem isShuttingDown_charge (gateway : Gateway) (request : Request) :
    (gateway.charge request).isShuttingDown = gateway.isShuttingDown := by
  rw [charge]
  split <;> rfl

/-- A request does not stop the timer. -/
@[simp] theorem isSweeping_charge (gateway : Gateway) (request : Request) :
    (gateway.charge request).isSweeping = gateway.isSweeping := by
  simp [isSweeping, limiter_charge]

/-- A gateway handles a request by its check, and answers what comes of it. -/
theorem handle_eq
    (gateway : Gateway)
    (moment : Moment)
    (request : Request) :
    gateway.handle moment request =
      (gateway.charge request,
        finish request
          (gateway.answer moment (gateway.charge request).trackedClients request
            (gateway.decision? request))) := by
  cases present : gateway.limiter with
  | none => simp [handle, charge, answer, decision?, trackedClients, present]
  | some limiter =>
      cases exempt : gateway.enforcement.isExempt request.path with
      | true =>
          simp [handle, charge, answer, decision?, trackedClients, outcome,
            checkedLimiter, Enforcement.call, routes, infallible, present, exempt]
      | false =>
          cases decided : (limiter.consume
              (gateway.enforcement.resolver.resolve request)).2.isAllowed <;>
            simp [handle, charge, answer, decision?, trackedClients, outcome,
              checkedLimiter, Enforcement.call, routes, infallible, Except.map,
              present, exempt, decided]

/-- A refusal is answered by its own status, and everything else as the router
answers it. -/
theorem status_handle
    (gateway : Gateway)
    (moment : Moment)
    (request : Request) :
    let answered := gateway.handle moment request
    answered.2.status =
      if isRefusal (gateway.decision? request) then 429
      else (gateway.respond moment answered.1.trackedClients request).status := by
  simp only [handle_eq]
  change (answer ..).status = _
  cases gateway.decision? request with
  | none => rfl
  | some decided => cases decided <;> rfl

/-- A request that asks for a body and is not refused gets the one of the router. -/
theorem body_handle
    {gateway : Gateway}
    {request : Request}
    (admitted : isRefusal (gateway.decision? request) = false)
    (asked : request.method ≠ "HEAD")
    (moment : Moment) :
    let answered := gateway.handle moment request
    answered.2.body =
      (gateway.respond moment answered.1.trackedClients request).body := by
  simp only [handle_eq, finish, asked, decide_false, Bool.false_and,
    Bool.false_eq_true, if_false]
  cases decision : gateway.decision? request with
  | none => rfl
  | some decided =>
      cases decided with
      | allowed limit remaining reset => rfl
      | denied limit reset retryAfter =>
          rw [decision] at admitted
          cases admitted

theorem enforcement_of_config
    {gateway other : Gateway}
    (same : gateway.config = other.config) :
    gateway.enforcement = other.enforcement := by
  rw [enforcement, enforcement, same]

/-! ## Runs -/

theorem step_request
    (gateway : Gateway)
    (moment : Moment)
    (request : Request) :
    (gateway.step (.request moment request)).1 = gateway.charge request := by
  rw [step, handle_eq]

theorem run_cons (gateway : Gateway) (event : Event) (events : List Event) :
    gateway.run (event :: events) =
      (((gateway.step event).1.run events).1,
        (gateway.step event).2.toList ++ ((gateway.step event).1.run events).2) :=
  rfl

theorem run_append (gateway : Gateway) (earlier later : List Event) :
    gateway.run (earlier ++ later) =
      (((gateway.run earlier).1.run later).1,
        (gateway.run earlier).2 ++ ((gateway.run earlier).1.run later).2) := by
  induction earlier generalizing gateway with
  | nil => rfl
  | cons event events inductionHypothesis =>
      rw [List.cons_append, run_cons, inductionHypothesis, run_cons,
        List.append_assoc]

end Gateway
end Turnstile
