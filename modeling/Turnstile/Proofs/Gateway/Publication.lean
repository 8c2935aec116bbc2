import Turnstile.Proofs.Enforcement.Responses
import Turnstile.Proofs.Gateway.Conservation
import Turnstile.Proofs.Gateway.Start
import Turnstile.Proofs.Lifetimes

/-!
# The published budget

The statistics show the numbers of the configuration, while requests are decided by the
policy of the limiter, which the headers tell of.  Both are the same for as long as the
gateway runs if the limiter was made from the configuration.  A gateway around a limiter
of its own publishes what it enforces exactly if its configuration forms that limiter's
policy.
-/

namespace Turnstile

open Http Settings Text

/-- A report that shows the numbers of a policy. -/
structure StatsReport.Shows (report : StatsReport) (policy : Policy) : Prop where
  capacity : report.capacity = policy.capacity.toNat
  refillRate : report.refillRate = policy.refillRate.toNat
  refillIntervalMs : report.refillIntervalMs = policy.intervalMs.toNat

/-- A configuration forms the policy that has its three numbers. -/
theorem Settings.Config.policy_eq_ok_iff {config : Config} {policy : Policy} :
    config.policy = .ok policy ↔
      config.capacity = policy.capacity ∧ config.refillRate = policy.refillRate ∧
        config.refillIntervalMs = policy.intervalMs := by
  rw [Config.policy]
  constructor
  · intro made
    obtain ⟨capacity, rate, interval⟩ := Policy.make_eq_ok made
    exact ⟨capacity.symm, rate.symm, interval.symm⟩
  · rintro ⟨capacity, rate, interval⟩
    rw [capacity, rate, interval, Policy.make_self]

theorem Limiter.limit_consume (limiter : Limiter) (key : String) :
    (limiter.consume key).2.limit = limiter.policy.capacity := by
  rw [decision_consume, Bucket.limit_take]

namespace Gateway

variable {gateway : Gateway} {moment : Moment} {request : Request}

/-! ## Statistics -/

theorem statsReport_shows_iff (tracked : Nat) {policy : Policy} :
    (gateway.statsReport moment tracked).Shows policy ↔
      gateway.config.policy = .ok policy := by
  rw [Config.policy_eq_ok_iff, ← UInt32.toNat_inj, ← UInt32.toNat_inj,
    ← UInt64.toNat_inj]
  exact ⟨fun shows => ⟨shows.1, shows.2, shows.3⟩,
    fun ⟨capacity, rate, interval⟩ => ⟨capacity, rate, interval⟩⟩

/-! ## Headers -/

theorem limit_of_decision?
    {policy : Policy}
    (enforced : gateway.policy? = some policy)
    {decision : Decision}
    (decided : gateway.decision? request = some decision) :
    decision.limit = policy.capacity := by
  obtain ⟨limiter, present, rfl⟩ := Option.map_eq_some_iff.1 enforced
  rw [decision?, present, Option.bind_some] at decided
  split at decided
  · cases decided
  · cases decided
    exact limiter.limit_consume _

/-- The headers of a checked request for the statistics tell of its decision. -/
theorem tells_of_stats
    (method : request.method = "GET")
    (path : request.path = "/stats")
    {decision : Decision}
    (decided : gateway.decision? request = some decision)
    (served : (gateway.handle moment request).2.status = 200) :
    (gateway.handle moment request).2.headers.Tells decision := by
  have routed : (Route.ofPath? request.path).isSome = true := by
    rw [path]
    rfl
  have known : hasMethod request = true := by
    rw [hasMethod, method]
    rfl
  cases allowed : decision.isAllowed with
  -- a refusal is answered with another status
  | false =>
      rw [status_handle, decided] at served
      simp [isRefusal, allowed] at served
  | true =>
      rw [handle_eq, decided]
      simp only [finish, routed, known, answer, allowed, if_true, Bool.not_true,
        Bool.and_false, Bool.false_eq_true, if_false]
      exact Headers.setRateLimit_tells _ decision

/-! ## Agreement -/

/-- A gateway that starts with a limiter is one around that limiter, and its
configuration forms the limiter's policy. -/
theorem policy_of_start
    {config : Config}
    {clock : Clock}
    (started : start config clock = .ok gateway)
    {limiter : Limiter}
    (present : gateway.limiter = some limiter) :
    gateway = withLimiter config limiter ∧ config.policy = .ok limiter.policy := by
  obtain ⟨-, rfl⟩ | ⟨-, policy, formed, rfl⟩ := start_eq_ok_iff.1 started
  · cases present
  · cases present
    exact ⟨rfl, formed⟩

/-- Statistics that are served in a run of a gateway around a limiter show the policy
that the limiter enforces exactly if the configuration forms it; the configuration of a
gateway that starts by itself does.  The header of checked statistics tells of the
capacity enforced, so it agrees with the statistics exactly if the configuration has
that capacity. -/
theorem stats_show_enforced_policy_iff
    (config : Config)
    (limiter : Limiter)
    (events : List Event)
    (moment : Moment)
    {request : Request}
    (method : request.method = "GET")
    (path : request.path = "/stats") :
    let reached := ((withLimiter config limiter).run events).1
    let answered := reached.handle moment request
    (answered.2.status = 200 →
        reached.policy? = some limiter.policy ∧
          ∃ report : StatsReport,
            answered.2.body = report.write ∧
              (moment.uptimeSeconds < UInt64.size →
                answered.1.trackedClients < UInt64.size →
                  StatsReport.read answered.2.body = .ok report) ∧
              (report.Shows limiter.policy ↔ config.policy = .ok limiter.policy) ∧
              (reached.enforcement.isExempt request.path = false →
                answered.2.headers.values "x-ratelimit-limit" =
                    [Utf8.ofAscii (decimal limiter.policy.capacity.toNat)] ∧
                  (report.capacity = limiter.policy.capacity.toNat ↔
                    config.capacity = limiter.policy.capacity))) ∧
      ∀ clock gateway, start config clock = .ok gateway →
        gateway.limiter = some limiter →
          gateway = withLimiter config limiter ∧
            config.policy = .ok limiter.policy := by
  intro reached answered
  refine ⟨fun served => ?_, fun _ _ started present => policy_of_start started present⟩
  have same : reached.config = config := config_run _ events
  have enforced : reached.policy? = some limiter.policy := policy?_run _ events
  have body := body_of_stats method path served
  refine ⟨enforced, _, body, ?read, ?shows, ?limit⟩
  case read =>
    intro recent few
    rw [body]
    exact StatsReport.read_write (statsReport_fits recent few)
  case shows => rw [statsReport_shows_iff, same]
  case limit =>
    intro checked
    obtain ⟨present, held, -⟩ := Option.map_eq_some_iff.1 enforced
    obtain ⟨decision, decided⟩ : ∃ decision, reached.decision? request = some decision := by
      rw [decision?, held, Option.bind_some, checked]
      exact ⟨_, rfl⟩
    have told := (tells_of_stats method path decided served).limit
    rw [limit_of_decision? enforced decided] at told
    refine ⟨told, ?_⟩
    rw [statsReport, same]
    exact UInt32.toNat_inj

/-- Three tokens are configured and enforced, and shown after two requests. -/
theorem three_tokens_shown_and_enforced :
    let config := { Config.standard with capacity := 3, refillRate := 2 }
    let limiter := Limiter.start .small { nowMs := 0 }
    let moment : Moment :=
      { timestamp := { day := 0, second := 0, nanos := 0 }
        uptimeSeconds := 0 }
    let get (host : BitVec 32) (target : String) : Request :=
      { method := "GET"
        target
        headers := .empty
        peer := some { address := .v4 host, scope := 0, port := 1000 } }
    let events : List Event :=
      [.request moment (get 1 "/api/ping"), .setClock 400,
        .request moment (get 2 "/stats")]
    let reached := ((withLimiter config limiter).run events).1
    let answered := reached.handle moment (get 1 "/stats")
    answered.2.status = 200 ∧ config.policy = .ok .small ∧
      ∃ report : StatsReport,
        StatsReport.read answered.2.body = .ok report ∧ report.Shows .small ∧
          answered.2.headers.values "x-ratelimit-limit" = [Utf8.ofAscii (decimal 3)] := by
  intro config limiter moment get events
  have formed : config.policy = .ok .small := by decide +kernel
  have asked : (get 1 "/stats").method = "GET" := rfl
  have path : (get 1 "/stats").path = "/stats" := by decide +kernel
  have shown := (stats_show_enforced_policy_iff config limiter events moment asked path).1
  obtain ⟨-, report, -, read, shows, limit⟩ := shown (by decide +kernel)
  refine ⟨by decide +kernel, formed, report, ?read, shows.2 formed, ?limit⟩
  case read => exact read (by decide) (by decide +kernel)
  case limit => exact (limit (by decide +kernel)).1

/-- Seven tokens are shown where three are enforced. -/
theorem seven_tokens_shown_for_three :
    let config :=
      { Config.standard with capacity := 7, refillRate := 3, refillIntervalMs := 250 }
    let limiter := Limiter.start .small { nowMs := 0 }
    let moment : Moment :=
      { timestamp := { day := 0, second := 0, nanos := 0 }
        uptimeSeconds := 0 }
    let request : Request :=
      { method := "GET"
        target := "/stats"
        headers := .empty
        peer := some { address := .v4 0x0A000001, scope := 0, port := 1000 } }
    let answered := (withLimiter config limiter).handle moment request
    answered.2.status = 200 ∧
      ∃ report : StatsReport,
        StatsReport.read answered.2.body = .ok report ∧ ¬ report.Shows limiter.policy ∧
          report.capacity = 7 ∧ report.refillRate = 3 ∧ report.refillIntervalMs = 250 ∧
          answered.2.headers.values "x-ratelimit-limit" = [Utf8.ofAscii (decimal 3)] := by
  intro config limiter moment request answered
  have asked : request.method = "GET" := rfl
  have path : request.path = "/stats" := by decide +kernel
  have served : answered.2.status = 200 := by decide +kernel
  have few : answered.1.trackedClients < UInt64.size := by decide +kernel
  refine ⟨served, (withLimiter config limiter).statsReport moment answered.1.trackedClients,
    ?read, ?unlike, rfl, rfl, rfl, by decide +kernel⟩
  case read =>
    have body : answered.2.body = _ := body_of_stats asked path served
    rw [body]
    exact StatsReport.read_write (statsReport_fits (by decide) few)
  case unlike =>
    rw [statsReport_shows_iff]
    decide +kernel

end Gateway
end Turnstile
