import Turnstile.Proofs.Gateway.Sweeps
import Turnstile.Proofs.Json.Records

/-!
# Buckets and requests in the books

A bucket comes into being when a client that has none is checked, and it is gone
when a sweep takes it away.  The evicted buckets that the figures tell of and the
clients that are tracked add up to the newcomers, at every point of a run.

The gauge is only as new as the last sweep.  The statistics are newer: they are
asked for after the check of the request that they answer.
-/

namespace Turnstile

open Http Settings

/-- A request leaves the evicted buckets as they are counted. -/
theorem Metrics.evicted_record (metrics : Metrics) (outcome : Outcome) :
    (metrics.record outcome).evicted = metrics.evicted := by
  cases outcome <;> rfl

namespace Gateway

/-- Whether an event is a request. -/
def Event.isRequest : Event → Bool
  | .request .. => true
  | _ => false

/-- Whether a request is checked for a client that has no bucket. -/
def isNewcomer (gateway : Gateway) (request : Request) : Bool :=
  gateway.limiter.any fun limiter =>
    !gateway.enforcement.isExempt request.path &&
      !limiter.store.contains (gateway.enforcement.resolver.resolve request)

/-- Whether an event is a request of such a client. -/
def meetsNewcomer (gateway : Gateway) : Event → Bool
  | .request _ request => gateway.isNewcomer request
  | _ => false

/-- The number of such requests in a run, each as the gateway is when it arrives. -/
def newcomers (gateway : Gateway) : List Event → Nat
  | [] => 0
  | event :: events =>
      (gateway.meetsNewcomer event).toNat +
        (gateway.step event).1.newcomers events

/-- The buckets that the gateway accounts for, stored or evicted. -/
def accounted (gateway : Gateway) : Nat :=
  gateway.trackedClients + gateway.metrics.evicted

/-! ## Buckets -/

/-- A sweep enters into the figures what it takes from the store. -/
theorem accounted_sweep (gateway : Gateway) :
    gateway.sweep.accounted = gateway.accounted := by
  cases present : gateway.limiter with
  | none => rw [sweep, present]
  | some limiter =>
      have evicts := evicts_sweep present
      have balanced := evicts.balanced
      rw [accounted, accounted, evicts.counted]
      omega

theorem accounted_sleep (gateway : Gateway) (millis : Nat) :
    (gateway.sleep millis).accounted = gateway.accounted :=
  apply_sleep accounted accounted_sweep (fun _ _ => rfl) gateway millis

/-- A check stores a bucket if the client has none. -/
theorem trackedKeys_checkedLimiter
    {gateway : Gateway}
    {limiter : Limiter}
    (present : gateway.limiter = some limiter)
    (request : Request) :
    (gateway.checkedLimiter request limiter).trackedKeys =
      limiter.trackedKeys + (gateway.isNewcomer request).toNat := by
  rw [checkedLimiter, isNewcomer, present, Option.any_some]
  split
  · next exempt =>
      rw [exempt]
      rfl
  · next checked =>
      rw [Bool.eq_false_iff.2 checked, Limiter.trackedKeys_consume,
        Bool.not_false, Bool.true_and]

/-- A request of a newcomer adds a bucket to the account. -/
theorem accounted_charge (gateway : Gateway) (request : Request) :
    (gateway.charge request).accounted =
      gateway.accounted + (gateway.isNewcomer request).toNat := by
  rw [charge]
  cases present : gateway.limiter with
  | none =>
      rw [isNewcomer, present]
      rfl
  | some limiter =>
      have stored := trackedKeys_checkedLimiter present request
      simp only [accounted, trackedClients, present, Option.elim_some,
        Metrics.evicted_record, stored]
      omega

/-- Only the request of a newcomer changes what is accounted for. -/
theorem accounted_step (gateway : Gateway) (event : Event) :
    (gateway.step event).1.accounted =
      gateway.accounted + (gateway.meetsNewcomer event).toNat := by
  cases event with
  | request moment request =>
      rw [step_request]
      exact gateway.accounted_charge request
  | sleep millis => exact gateway.accounted_sleep millis
  | setClock nowMs =>
      cases present : gateway.limiter <;>
        simp [step, setClock, accounted, trackedClients, meetsNewcomer, present,
          Limiter.trackedKeys]
  | shutdown => rfl

theorem accounted_run (gateway : Gateway) (events : List Event) :
    (gateway.run events).1.accounted =
      gateway.accounted + gateway.newcomers events := by
  induction events generalizing gateway with
  | nil => rfl
  | cons event events inductionHypothesis =>
      rw [run_cons, inductionHypothesis, accounted_step, newcomers,
        Nat.add_assoc]

/-! ## Requests -/

theorem isSome_limiter_sweep (gateway : Gateway) :
    gateway.sweep.limiter.isSome = gateway.limiter.isSome := by
  rw [limiter_sweep, Option.isSome_map]

theorem isSome_limiter_sleep (gateway : Gateway) (millis : Nat) :
    (gateway.sleep millis).limiter.isSome = gateway.limiter.isSome :=
  apply_sleep (fun gateway => gateway.limiter.isSome) isSome_limiter_sweep
    (fun _ _ => rfl) gateway millis

theorem total_sweep (gateway : Gateway) :
    gateway.sweep.metrics.total = gateway.metrics.total := by
  rw [sweep]
  split <;> rfl

theorem total_sleep (gateway : Gateway) (millis : Nat) :
    (gateway.sleep millis).metrics.total = gateway.metrics.total :=
  apply_sleep (fun gateway => gateway.metrics.total) total_sweep
    (fun _ _ => rfl) gateway millis

/-- A gateway with a limiter counts every request, and nothing else. -/
theorem total_step
    {gateway : Gateway}
    (limited : gateway.limiter.isSome = true)
    (event : Event) :
    (gateway.step event).1.limiter.isSome = true ∧
      (gateway.step event).1.metrics.total =
        gateway.metrics.total + event.isRequest.toNat := by
  cases event with
  | request moment request =>
      obtain ⟨limiter, present⟩ := Option.isSome_iff_exists.1 limited
      rw [step_request, charge, present]
      exact ⟨rfl, Metrics.total_record ..⟩
  | sleep millis =>
      exact ⟨(gateway.isSome_limiter_sleep millis).trans limited,
        gateway.total_sleep millis⟩
  | setClock nowMs => exact ⟨(Option.isSome_map ..).trans limited, rfl⟩
  | shutdown => exact ⟨limited, rfl⟩

theorem total_run
    {gateway : Gateway}
    (limited : gateway.limiter.isSome = true)
    (events : List Event) :
    (gateway.run events).1.metrics.total =
      gateway.metrics.total + events.countP Event.isRequest := by
  induction events generalizing gateway with
  | nil => rfl
  | cons event events inductionHypothesis =>
      obtain ⟨still, counted⟩ := total_step limited event
      rw [run_cons, inductionHypothesis still, counted, List.countP_cons,
        Nat.add_assoc, Nat.add_comm event.isRequest.toNat]
      cases event <;> rfl

/-! ## What is shown -/

/-- The statistics that are served are those of the clients tracked after the check
of the request. -/
theorem body_of_stats
    {gateway : Gateway}
    {moment : Moment}
    {request : Request}
    (method : request.method = "GET")
    (path : request.path = "/stats")
    (served : (gateway.handle moment request).2.status = 200) :
    (gateway.handle moment request).2.body =
      (gateway.statsReport moment
        (gateway.handle moment request).1.trackedClients).write := by
  have admitted : isRefusal (gateway.decision? request) = false := by
    by_contra refused
    rw [Bool.not_eq_false] at refused
    rw [status_handle, refused] at served
    cases served
  have asked : request.method ≠ "HEAD" := by
    rw [method]
    decide
  rw [body_handle admitted asked, respond, path]
  simp [Route.ofPath?, hasMethod, method, serve, Response.ofJson]

/-- Statistics fit their fields if the uptime and the tracked clients do. -/
theorem statsReport_fits
    {gateway : Gateway}
    {moment : Moment}
    (recent : moment.uptimeSeconds < UInt64.size)
    {tracked : Nat}
    (few : tracked < UInt64.size) :
    (gateway.statsReport moment tracked).Fits where
  trackedClients := few
  capacity := gateway.config.capacity.toNat_lt
  refillRate := gateway.config.refillRate.toNat_lt
  refillIntervalMs := gateway.config.refillIntervalMs.toNat_lt
  uptimeSeconds := recent

/-- The books of a gateway that starts with no buckets are in order after every run.
The requests that found their client without a bucket come to the tracked and the
evicted buckets.  Every sweep left the gauge at the number of buckets that it left.
Statistics, if they are served, are read back as a report of the buckets stored
after the check of their own request, as long as both counts that are not bounded
fit their fields.  And every request is counted once. -/
theorem buckets_and_requests_accounted
    (config : Config)
    (policy : Policy)
    (clock : Clock)
    (events : List Event) :
    let limiter := Limiter.start policy clock
    let opened := withLimiter config limiter
    let observed := (Sweeper.ofParts config (some limiter)).run events
    let reached := observed.1.gateway
    opened.run events = (reached, observed.2) ∧
      opened.newcomers events =
        reached.trackedClients + reached.metrics.evicted ∧
      (∀ sweep ∈ observed.1.sweeps,
        sweep.left.metrics.sweeps.map SweepFigures.tracked =
          some sweep.left.trackedClients) ∧
      (∀ moment request,
        let answered := reached.handle moment request
        request.method = "GET" → request.path = "/stats" →
          answered.2.status = 200 →
            ∃ report : StatsReport,
              report.trackedClients = answered.1.trackedClients ∧
                answered.2.body = report.write ∧
                (moment.uptimeSeconds < UInt64.size →
                  answered.1.trackedClients < UInt64.size →
                    StatsReport.read answered.2.body = .ok report)) ∧
      reached.metrics.total = events.countP Event.isRequest := by
  intro limiter opened observed reached
  obtain ⟨onTime, begun, -⟩ := Sweeper.onTime_ofParts config (some limiter)
  obtain ⟨-, ran⟩ := onTime.run events
  rw [begun] at ran
  have final : (opened.run events).1 = reached := congrArg Prod.fst ran
  refine ⟨ran, ?buckets, ?gauge, ?stats, ?total⟩
  case buckets =>
    have account := opened.accounted_run events
    rw [final] at account
    exact (account.trans (Nat.zero_add _)).symm
  case gauge =>
    intro sweep member
    obtain ⟨found, evicts⟩ :=
      Sweeper.wellNoted_run_ofParts config (some limiter) events sweep member
    exact evicts.gauged
  case stats =>
    intro moment request answered method path served
    have body := body_of_stats method path served
    refine ⟨_, rfl, body, fun recent few => ?_⟩
    rw [body]
    exact StatsReport.read_write (statsReport_fits recent few)
  case total =>
    have limited : opened.limiter.isSome = true := rfl
    have total := total_run limited events
    rw [final] at total
    exact total.trans (Nat.zero_add _)

/-- Of two clients one spends a single token and the other one three.  A second later
the first bucket is full again and a sweep takes it away, so its client comes as
a newcomer once more.  The statistics that it asks for tell of both buckets. -/
theorem three_newcomers_of_two_clients :
    let config := { Config.standard with sweepIntervalMs := 5 }
    let limiter := Limiter.start .small { nowMs := 0 }
    let opened := withLimiter config limiter
    let moment : Moment :=
      { timestamp := { day := 0, second := 0, nanos := 0 }
        uptimeSeconds := 0 }
    let get (host : BitVec 32) (target : String) : Request :=
      { method := "GET"
        target
        headers := .empty
        peer := some { address := .v4 host, scope := 0, port := 50000 } }
    let events : List Event :=
      [.request moment (get 1 "/api/ping"), .request moment (get 2 "/api/ping"),
        .request moment (get 2 "/"), .request moment (get 2 "/api/ping"),
        .request moment (get 1 "/health"), .setClock 1000, .sleep 4, .sleep 3,
        .request moment (get 1 "/stats")]
    let observed := (Sweeper.ofParts config (some limiter)).run events
    let reached := observed.1.gateway
    let answered := reached.handle moment (get 1 "/stats")
    opened.newcomers events = 3 ∧
      observed.1.sweeps.map Sweeper.Sweep.atMs = [5] ∧
      reached.metrics.evicted = 1 ∧ answered.1.trackedClients = 2 ∧
      opened.newcomers events =
        reached.trackedClients + reached.metrics.evicted ∧
      (∀ sweep ∈ observed.1.sweeps,
        sweep.left.metrics.sweeps.map SweepFigures.tracked =
          some sweep.left.trackedClients) ∧
      (∃ report : StatsReport,
        StatsReport.read answered.2.body = .ok report ∧
          report.trackedClients = 2) ∧
      reached.metrics.total = 6 := by
  refine ⟨by decide +kernel, by decide +kernel, by decide +kernel,
    by decide +kernel, ?balance, ?gauged, ?shown, ?counted⟩
  case balance => exact (buckets_and_requests_accounted _ _ _ _).2.1
  case gauged => exact (buckets_and_requests_accounted _ _ _ _).2.2.1
  case shown =>
    exact ((buckets_and_requests_accounted _ _ _ _).2.2.2.1 _ _ (by rfl)
      (by decide +kernel) (by decide +kernel)).imp fun report told =>
        ⟨told.2.2 (by decide) (by decide +kernel),
          told.1.trans (by decide +kernel)⟩
  case counted =>
    exact (buckets_and_requests_accounted _ _ _ _).2.2.2.2.trans
      (by decide +kernel)

end Gateway
end Turnstile
