import Turnstile.Proofs.Gateway.Timer
import Turnstile.Startup

/-!
# Validation and start

A configuration is checked twice: as a whole when it is read, and by the policy that
a gateway's limiter is made from.  Both accept the same configurations, so a gateway
always starts from a configuration that was read, and no log tells otherwise.
-/

namespace Turnstile

open Settings Text

/-! ## Configurations -/

namespace Settings.Config

theorem isLimiting_eq_true_iff (config : Config) :
    config.isLimiting = true ↔ config.capacity ≠ 0 := by
  rw [isLimiting, decide_eq_true_iff, UInt32.pos_iff_ne_zero]

/-- A computation that succeeds does so at each of its steps. -/
theorem exists_ok_of_bind
    {ε α β : Type}
    {first : Except ε α}
    {next : α → Except ε β}
    {result : β}
    (succeeded : first >>= next = .ok result) :
    ∃ value, first = .ok value ∧ next value = .ok result := by
  cases first with
  | error error => cases succeeded
  | ok value => exact ⟨value, rfl, succeeded⟩

/-- What validation asks of the rate and the interval by themselves, a policy asks of
them as well. -/
theorem positive_of_policy
    {config : Config}
    (formed : ∃ policy, config.policy = .ok policy) :
    config.refillRate ≠ 0 ∧ config.refillIntervalMs ≠ 0 := by
  obtain ⟨-, rate, interval, -⟩ := (Policy.make_isOk_iff ..).1 formed
  constructor
  · intro zero
    rw [zero] at rate
    cases rate
  · intro zero
    rw [zero] at interval
    cases interval

/-- Validation asks for a policy, unless rate limiting is switched off. -/
theorem validate_eq_ok_iff (config : Config) :
    config.validate = .ok () ↔
      config.capacity ≠ 0 → ∃ policy, config.policy = .ok policy := by
  cases limiting : config.isLimiting with
  | false =>
      have off : ¬config.capacity ≠ 0 := by
        rw [← isLimiting_eq_true_iff, limiting]
        exact Bool.false_ne_true
      rw [validate, limiting]
      exact iff_of_true rfl fun on => absurd on off
  | true =>
      have on : config.capacity ≠ 0 := (isLimiting_eq_true_iff config).1 limiting
      simp only [validate, limiting, Bool.not_true, Bool.false_eq_true, if_false]
      split
      · next zero =>
          exact iff_of_false nofun fun formed => (positive_of_policy (formed on)).1 zero
      split
      · next zero =>
          exact iff_of_false nofun fun formed => (positive_of_policy (formed on)).2 zero
      split
      · next policy formed => exact iff_of_true rfl fun _ => ⟨policy, formed⟩
      · next cause refused =>
          refine iff_of_false nofun fun formed => ?_
          obtain ⟨policy, formed⟩ := formed on
          rw [refused] at formed
          cases formed

/-- The settings that validation accepts. -/
theorem validate_eq_ok_iff_bounds (config : Config) :
    config.validate = .ok () ↔
      config.capacity ≠ 0 →
        0 < config.refillRate.toNat ∧ 0 < config.refillIntervalMs.toNat ∧
          config.refillIntervalMs.toNat < 0x8000_0000_0000_0000 := by
  rw [validate_eq_ok_iff]
  refine imp_congr_right fun on => ?_
  have positive : 0 < config.capacity.toNat :=
    Nat.pos_of_ne_zero fun zero => on (UInt32.toNat_inj.1 zero)
  rw [policy, Policy.make_isOk_iff, and_iff_right positive]

/-- A configuration that was read has been validated. -/
theorem validate_of_ofEnvironment
    {environment : Environment}
    {file : Option String}
    {config : Config}
    (read : Config.ofEnvironment environment file = .ok config) :
    config.validate = .ok () := by
  obtain ⟨other, -, read⟩ := exists_ok_of_bind read
  obtain ⟨⟨⟩, validated, same⟩ := exists_ok_of_bind read
  cases same
  exact validated

end Settings.Config

/-! ## Starts -/

namespace Gateway

/-- A gateway that limits requests by the three numbers of a configuration, or lets
them all through if its capacity is zero. -/
structure Enforces (gateway : Gateway) (config : Config) : Prop where
  limits : gateway.limiter.isSome = true ↔ config.capacity ≠ 0
  policy (limiter : Limiter) :
    gateway.limiter = some limiter →
      limiter.policy.capacity = config.capacity ∧
        limiter.policy.refillRate = config.refillRate ∧
        limiter.policy.intervalMs = config.refillIntervalMs

theorem start_eq_ok_iff
    {config : Config}
    {clock : Clock}
    {gateway : Gateway} :
    start config clock = .ok gateway ↔
      (config.capacity = 0 ∧ gateway = ofParts config none) ∨
        config.capacity ≠ 0 ∧ ∃ policy, config.policy = .ok policy ∧
          gateway = ofParts config (some (.start policy clock)) := by
  rw [start]
  split
  · next on =>
      rw [Config.isLimiting_eq_true_iff] at on
      cases config.policy with
      | error cause => simp [on]
      | ok policy => simp [on, eq_comm]
  · next off =>
      rw [Config.isLimiting_eq_true_iff, not_not] at off
      simp [off, eq_comm]

theorem exists_start_iff (config : Config) (clock : Clock) :
    (∃ gateway, start config clock = .ok gateway) ↔
      config.capacity ≠ 0 → ∃ policy, config.policy = .ok policy := by
  simp only [start_eq_ok_iff]
  constructor
  · rintro ⟨gateway, ⟨off, -⟩ | ⟨-, policy, formed, -⟩⟩ on
    · exact absurd off on
    · exact ⟨policy, formed⟩
  · intro formed
    by_cases off : config.capacity = 0
    · exact ⟨_, .inl ⟨off, rfl⟩⟩
    · obtain ⟨policy, formed⟩ := formed off
      exact ⟨_, .inr ⟨off, policy, formed, rfl⟩⟩

/-- The policy that a gateway limits requests by. -/
def policy? (gateway : Gateway) : Option Policy :=
  gateway.limiter.map Limiter.policy

theorem policy?_sleep (gateway : Gateway) (millis : Nat) :
    (gateway.sleep millis).policy? = gateway.policy? := by
  refine apply_sleep policy? (fun gateway => ?_) (fun _ _ => rfl) gateway millis
  rw [policy?, limiter_sweep, Option.map_map]
  rfl

theorem policy?_charge (gateway : Gateway) (request : Http.Request) :
    (gateway.charge request).policy? = gateway.policy? := by
  have kept (limiter : Limiter) :
      (gateway.checkedLimiter request limiter).policy = limiter.policy := by
    rw [checkedLimiter]
    split <;> rfl
  rw [policy?, policy?, limiter_charge, Option.map_map]
  exact Option.map_congr fun limiter _ => kept limiter

/-- Nothing changes the policy of a gateway. -/
theorem policy?_step (gateway : Gateway) (event : Event) :
    (gateway.step event).1.policy? = gateway.policy? := by
  cases event with
  | request moment request => rw [step_request, policy?_charge]
  | sleep millis => exact gateway.policy?_sleep millis
  | setClock nowMs =>
      change (gateway.setClock nowMs).policy? = gateway.policy?
      rw [policy?, setClock, Option.map_map]
      rfl
  | shutdown => rfl

theorem policy?_run (gateway : Gateway) (events : List Event) :
    (gateway.run events).1.policy? = gateway.policy? := by
  induction events generalizing gateway with
  | nil => rfl
  | cons event events inductionHypothesis =>
      rw [run_cons, inductionHypothesis, policy?_step]

theorem enforces_iff (gateway : Gateway) (config : Config) :
    gateway.Enforces config ↔
      (gateway.policy?.isSome = true ↔ config.capacity ≠ 0) ∧
        ∀ policy, gateway.policy? = some policy →
          policy.capacity = config.capacity ∧
            policy.refillRate = config.refillRate ∧
            policy.intervalMs = config.refillIntervalMs := by
  rw [policy?, Option.isSome_map]
  constructor
  · rintro ⟨limits, numbers⟩
    refine ⟨limits, fun policy limited => ?_⟩
    obtain ⟨limiter, present, rfl⟩ := Option.map_eq_some_iff.1 limited
    exact numbers limiter present
  · rintro ⟨limits, numbers⟩
    refine ⟨limits, fun limiter present => ?_⟩
    exact numbers limiter.policy (by rw [present, Option.map_some])

theorem enforces_of_start
    {config : Config}
    {clock : Clock}
    {gateway : Gateway}
    (started : start config clock = .ok gateway) : gateway.Enforces config := by
  rw [enforces_iff]
  obtain ⟨off, rfl⟩ | ⟨on, policy, formed, rfl⟩ := start_eq_ok_iff.1 started
  · exact ⟨iff_of_false Bool.false_ne_true (not_not_intro off), nofun⟩
  · refine ⟨iff_of_true rfl on, ?_⟩
    rintro _ ⟨⟩
    exact Policy.make_eq_ok formed

/-- A gateway goes on enforcing a configuration, whatever happens to it. -/
theorem Enforces.run
    {gateway : Gateway}
    {config : Config}
    (enforces : gateway.Enforces config)
    (events : List Event) : (gateway.run events).1.Enforces config := by
  rw [enforces_iff, policy?_run, ← enforces_iff]
  exact enforces

end Gateway

/-! ## Logs -/

namespace Startup

/-- How the line on a limiter that could not be made begins. -/
def limiterFailure : String := "Failed to initialize rate limiter"

/-- Lines of which none says that a limiter could not be made. -/
def Silent (lines : List LogLine) : Prop :=
  ∀ line ∈ lines, ¬limiterFailure.toList <+: line.message.toList

theorem silent_append {first second : List LogLine} :
    Silent (first ++ second) ↔ Silent first ∧ Silent second :=
  List.forall_mem_append

theorem silent_cons {line : LogLine} {lines : List LogLine} :
    Silent (line :: lines) ↔
      (¬limiterFailure.toList <+: line.message.toList) ∧ Silent lines :=
  List.forall_mem_cons

theorem silent_nil : Silent [] := nofun

/-- A message that begins differently says something else. -/
theorem not_prefix_append
    {own : String}
    (differs : ¬own.toList <+: limiterFailure.toList ∧
      ¬limiterFailure.toList <+: own.toList)
    (rest : String) : ¬limiterFailure.toList <+: (own ++ rest).toList := by
  intro reported
  rw [String.toList_append] at reported
  obtain within | beyond := List.prefix_or_prefix_of_prefix reported
    (List.prefix_append own.toList rest.toList)
  · exact differs.2 within
  · exact differs.1 beyond

theorem silent_openMetrics (machine : Net.Machine) (config : Config) :
    Silent (openMetrics machine config).2 := by
  rw [openMetrics]
  split
  · exact silent_nil
  split
  · simp only [silent_cons, silent_nil, metricsLine]
    decide +kernel
  · simp only [silent_cons, silent_nil, noMetricsLine]
    decide +kernel

theorem silent_limitingLines (config : Config) (policy : Option Policy) :
    Silent (limitingLines config policy) := by
  cases policy with
  | none =>
      simp only [limitingLines, silent_cons, silent_nil]
      decide +kernel
  | some policy =>
      rw [limitingLines, silent_cons]
      constructor
      · simp only [limitingLine]
        decide +kernel
      · intro line skipped
        obtain ⟨invalid, -, rfl⟩ := List.mem_map.1 skipped
        simp only [skippedLine]
        decide +kernel

theorem silent_servingLines (endpoint : Net.Endpoint) :
    Silent (servingLines endpoint) := by
  rw [servingLines, silent_cons]
  constructor
  · exact not_prefix_append (by decide +kernel) _
  · unfold Silent
    decide +kernel

/-- No limiter fails where a configuration was validated. -/
theorem silent_bringUp
    {config : Config}
    (validated : config.validate = .ok ())
    (machine : Net.Machine)
    (clock : Clock) : Silent (bringUp machine clock config).1 := by
  obtain ⟨gateway, started⟩ :=
    (Gateway.exists_start_iff config clock).2 (config.validate_eq_ok_iff.1 validated)
  have ready : Silent ((configLine config :: (openMetrics machine config).2) ++
      limitingLines config (gateway.limiter.map Limiter.policy)) := by
    refine silent_append.2 ⟨silent_cons.2 ⟨?_, silent_openMetrics machine config⟩,
      silent_limitingLines config _⟩
    simp only [configLine, info]
    decide +kernel
  rw [bringUp, started]
  dsimp only
  split
  · refine silent_append.2 ⟨ready, ?_⟩
    unfold Silent
    decide +kernel
  split
  · refine silent_append.2 ⟨ready, silent_cons.2 ⟨?_, silent_nil⟩⟩
    simp only [failure, String.append_assoc]
    exact not_prefix_append (by decide +kernel) _
  · exact silent_append.2 ⟨ready, silent_servingLines _⟩

/-- No log of a program that launches says that a limiter could not be made. -/
theorem silent_launch
    (environment : Environment)
    (file : Option String)
    (machine : Net.Machine)
    (clock : Clock) : Silent (launch environment file machine clock).1 := by
  have greeted : ¬limiterFailure.toList <+: greeting.message.toList := by
    decide +kernel
  rw [launch]
  cases read : Config.ofEnvironment environment file with
  | error error =>
      refine silent_cons.2 ⟨greeted, silent_cons.2 ⟨?_, silent_nil⟩⟩
      exact not_prefix_append (by decide +kernel) _
  | ok config =>
      have validated := config.validate_of_ofEnvironment read
      exact silent_cons.2 ⟨greeted, silent_bringUp validated machine clock⟩

end Startup

/-! ## Agreement -/

/-- A configuration is valid exactly if a gateway starts from it, and that is so exactly
if its capacity is zero or its rate and interval are in bounds.  The gateway has a
limiter exactly if the capacity is not zero, and limits by the three numbers of the
configuration for as long as it runs.  A gateway always starts from a configuration that
was read from an environment, and the log of a launch never says that none could. -/
theorem Gateway.validation_agrees_with_start (config : Config) (clock : Clock) :
    (config.validate = .ok () ↔ ∃ gateway, start config clock = .ok gateway) ∧
      (config.validate = .ok () ↔
        config.capacity ≠ 0 →
          0 < config.refillRate.toNat ∧ 0 < config.refillIntervalMs.toNat ∧
            config.refillIntervalMs.toNat < 0x8000_0000_0000_0000) ∧
      (∀ gateway, start config clock = .ok gateway →
        ∀ events, (gateway.run events).1.Enforces config) ∧
      ∀ environment file,
        (Config.ofEnvironment environment file = .ok config →
          ∃ gateway, start config clock = .ok gateway) ∧
        ∀ machine,
          Startup.Silent (Startup.launch environment file machine clock).1 := by
  have agree : config.validate = .ok () ↔
      ∃ gateway, start config clock = .ok gateway :=
    config.validate_eq_ok_iff.trans (exists_start_iff config clock).symm
  refine ⟨agree, config.validate_eq_ok_iff_bounds,
    fun gateway started events => (enforces_of_start started).run events,
    fun environment file => ⟨fun read => ?_, fun machine => ?_⟩⟩
  · exact agree.1 (config.validate_of_ofEnvironment read)
  · exact Startup.silent_launch environment file machine clock

/-- The largest interval is validated and enforced, the next one neither, and without a
capacity no interval is too large. -/
theorem Gateway.largest_interval_enforced :
    let config (capacity : UInt32) (intervalMs : UInt64) : Config :=
      { Config.standard with capacity, refillIntervalMs := intervalMs }
    let clock : Clock := { nowMs := 0 }
    let largest : UInt64 := 0x7FFF_FFFF_FFFF_FFFF
    (∃ gateway, start (config 5 largest) clock = .ok gateway ∧
      ∀ events limiter, (gateway.run events).1.limiter = some limiter →
        limiter.policy.intervalMs = largest) ∧
      (¬∃ gateway, start (config 5 (largest + 1)) clock = .ok gateway) ∧
      ∃ gateway, start (config 0 (largest + 1)) clock = .ok gateway ∧
        ∀ events, (gateway.run events).1.limiter.isSome = false := by
  intro config clock largest
  obtain ⟨agreeLargest, -, enforcesLargest, -⟩ :=
    validation_agrees_with_start (config 5 largest) clock
  obtain ⟨agreeLarger, -, -⟩ :=
    validation_agrees_with_start (config 5 (largest + 1)) clock
  obtain ⟨agreeOff, -, enforcesOff, -⟩ :=
    validation_agrees_with_start (config 0 (largest + 1)) clock
  obtain ⟨gateway, started⟩ := agreeLargest.1 (by decide +kernel)
  obtain ⟨passing, startedOff⟩ := agreeOff.1 (by decide +kernel)
  refine ⟨⟨gateway, started, fun events limiter present => ?_⟩, ?_,
    passing, startedOff, fun events => ?_⟩
  · exact ((enforcesLargest gateway started events).policy limiter present).2.2
  · exact fun started => absurd (agreeLarger.2 started) (by decide +kernel)
  · have limits := (enforcesOff passing startedOff events).limits
    rw [Bool.eq_false_iff]
    exact fun some => limits.1 some rfl

end Turnstile
