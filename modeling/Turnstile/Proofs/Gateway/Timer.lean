import Mathlib.Algebra.GroupWithZero.Nat
import Turnstile.Proofs.Gateway.Requests
import Turnstile.Sweeper

/-!
# The timer of a gateway

A gateway works out at once how often its timer fires while time goes by.  The
task behind the timer has only a stage and an instant at which its next tick is
due, and takes one millisecond after the other.  Between two events of a run it
is on time: it waits for the next whole multiple of the period, or it has ended,
and the sweeps that it has noted are those of all the multiples so far.

A sleep may therefore be split as one likes, and the run of the task is the run
of the gateway.
-/

namespace Turnstile

namespace Gateway

/-- Whether an event is a shutdown. -/
def Event.isShutdown : Event → Bool
  | .shutdown => true
  | _ => false

/-- The time that goes by in an event. -/
def Event.millis : Event → Nat
  | .sleep millis => millis
  | _ => 0

/-- The time that goes by in a run. -/
def slept (events : List Event) : Nat :=
  (events.map Event.millis).sum

/-! ## Sweeps -/

@[simp] theorem config_sweep (gateway : Gateway) :
    gateway.sweep.config = gateway.config := by
  rw [sweep]
  split <;> rfl

@[simp] theorem isShuttingDown_sweep (gateway : Gateway) :
    gateway.sweep.isShuttingDown = gateway.isShuttingDown := by
  rw [sweep]
  split <;> rfl

theorem limiter_sweep (gateway : Gateway) :
    gateway.sweep.limiter =
      gateway.limiter.map fun limiter => limiter.evictIdle.1 := by
  rw [sweep]
  cases present : gateway.limiter with
  | none => exact present
  | some limiter => rfl

@[simp] theorem isSweeping_sweep (gateway : Gateway) :
    gateway.sweep.isSweeping = gateway.isSweeping := by
  simp [isSweeping, limiter_sweep]

/-- A sweep does not ask for the time that the timer has run for. -/
theorem sweep_of_slept (gateway : Gateway) (millis : Nat) :
    sweep { gateway with sleptMs := millis } =
      { gateway.sweep with sleptMs := millis } := by
  cases present : gateway.limiter <;> simp [sweep, present]

/-! ## Sleeps -/

/-- What sweeps and the passing of time keep up, a sleep does as well. -/
theorem sleep_keeps
    (holds : Gateway → Prop)
    (sweeps : ∀ gateway, holds gateway → holds gateway.sweep)
    (lapses : ∀ gateway millis,
      holds gateway → holds { gateway with sleptMs := millis })
    {gateway : Gateway}
    (before : holds gateway)
    (millis : Nat) : holds (gateway.sleep millis) := by
  have fired (count : Nat) : holds (Nat.repeat sweep count gateway) := by
    induction count with
    | zero => exact before
    | succ count inductionHypothesis => exact sweeps _ inductionHypothesis
  rw [sleep]
  apply lapses
  split
  · exact fired _
  · exact before

/-- What sweeps and the passing of time leave as it is, a sleep does as well. -/
theorem apply_sleep
    {β : Type}
    (view : Gateway → β)
    (sweeps : ∀ gateway, view gateway.sweep = view gateway)
    (lapses : ∀ gateway millis,
      view { gateway with sleptMs := millis } = view gateway)
    (gateway : Gateway)
    (millis : Nat) : view (gateway.sleep millis) = view gateway := by
  apply sleep_keeps fun later => view later = view gateway
  · intro swept same
    exact (sweeps swept).trans same
  · intro slept millis same
    exact (lapses slept millis).trans same
  · rfl

/-- What sweeps keep up of a limiter holds of it after a sleep. -/
theorem exists_limiter_sleep
    (holds : Limiter → Prop)
    (sweeps : ∀ limiter, holds limiter → holds limiter.evictIdle.1)
    {gateway : Gateway}
    {limiter : Limiter}
    (present : gateway.limiter = some limiter)
    (before : holds limiter)
    (millis : Nat) :
    ∃ swept, (gateway.sleep millis).limiter = some swept ∧ holds swept := by
  apply sleep_keeps fun slept => ∃ swept, slept.limiter = some swept ∧ holds swept
  · rintro gateway ⟨limiter, present, before⟩
    refine ⟨_, ?_, sweeps limiter before⟩
    rw [limiter_sweep, present, Option.map_some]
  · exact fun slept millis swept => swept
  · exact ⟨limiter, present, before⟩

@[simp] theorem config_sleep (gateway : Gateway) (millis : Nat) :
    (gateway.sleep millis).config = gateway.config :=
  apply_sleep config config_sweep (fun _ _ => rfl) gateway millis

@[simp] theorem sleptMs_sleep (gateway : Gateway) (millis : Nat) :
    (gateway.sleep millis).sleptMs = gateway.sleptMs + millis := rfl

@[simp] theorem isSweeping_sleep (gateway : Gateway) (millis : Nat) :
    (gateway.sleep millis).isSweeping = gateway.isSweeping :=
  apply_sleep isSweeping isSweeping_sweep (fun _ _ => rfl) gateway millis

/-- While nothing is swept, a sleep only passes the time. -/
theorem sleep_of_idle
    {gateway : Gateway}
    (idle : gateway.isSweeping = false)
    (millis : Nat) :
    gateway.sleep millis =
      { gateway with sleptMs := gateway.sleptMs + millis } := by
  rw [sleep, if_neg (by rw [idle]; exact Bool.false_ne_true)]

theorem sleep_zero (gateway : Gateway) : gateway.sleep 0 = gateway := by
  simp [sleep, firings, Nat.repeat]

/-- The timer fires in a millisecond that completes a period. -/
theorem firings_succ (gateway : Gateway) (millis : Nat) :
    gateway.firings (millis + 1) = gateway.firings millis +
      if gateway.config.sweepIntervalMs ∣ gateway.sleptMs + millis + 1 then 1
      else 0 := by
  have ordered : gateway.sleptMs / gateway.config.sweepIntervalMs ≤
      (gateway.sleptMs + millis) / gateway.config.sweepIntervalMs :=
    Nat.div_le_div_right (Nat.le_add_right ..)
  simp only [firings]
  rw [← Nat.add_assoc, Nat.succ_div]
  omega

/-- A millisecond that completes a period sweeps the gateway. -/
theorem sleep_one_of_dvd
    {gateway : Gateway}
    (sweeping : gateway.isSweeping = true)
    (completes : gateway.config.sweepIntervalMs ∣ gateway.sleptMs + 1) :
    gateway.sleep 1 = { gateway.sweep with sleptMs := gateway.sleptMs + 1 } := by
  have once : gateway.firings 1 = 1 := by
    rw [firings_succ, Nat.add_zero, if_pos completes]
    simp [firings]
  rw [sleep, if_pos sweeping, once]
  rfl

/-- Any other millisecond only passes. -/
theorem sleep_one_of_not_dvd
    {gateway : Gateway}
    (partly : ¬gateway.config.sweepIntervalMs ∣ gateway.sleptMs + 1) :
    gateway.sleep 1 = { gateway with sleptMs := gateway.sleptMs + 1 } := by
  have never : gateway.firings 1 = 0 := by
    rw [firings_succ, Nat.add_zero, if_neg partly]
    simp [firings]
  rw [sleep, never]
  split <;> rfl

/-- The last millisecond of a sleep can be slept on its own. -/
theorem sleep_succ (gateway : Gateway) (millis : Nat) :
    gateway.sleep (millis + 1) = (gateway.sleep millis).sleep 1 := by
  cases sweeping : gateway.isSweeping with
  | false =>
      have idle : (gateway.sleep millis).isSweeping = false := by
        rw [isSweeping_sleep, sweeping]
      rw [sleep_of_idle idle, sleep_of_idle sweeping, sleep_of_idle sweeping]
      rfl
  | true =>
      have still : (gateway.sleep millis).isSweeping = true := by
        rw [isSweeping_sleep, sweeping]
      by_cases completes :
          gateway.config.sweepIntervalMs ∣ gateway.sleptMs + millis + 1
      -- The last sweep is that of the last millisecond, and it does not ask for
      -- the time that was slept before.
      · rw [sleep_one_of_dvd still (by simpa using completes), sleep, sleep,
          if_pos sweeping, if_pos sweeping, firings_succ, if_pos completes,
          sweep_of_slept]
        rfl
      · rw [sleep_one_of_not_dvd (by simpa using completes), sleep, sleep,
          if_pos sweeping, if_pos sweeping, firings_succ, if_neg completes]
        rfl

/-- Two sleeps in a row are one. -/
theorem sleep_add (gateway : Gateway) (earlier later : Nat) :
    (gateway.sleep earlier).sleep later = gateway.sleep (earlier + later) := by
  induction later with
  | zero => rw [sleep_zero, Nat.add_zero]
  | succ later inductionHypothesis =>
      rw [sleep_succ, inductionHypothesis, ← sleep_succ, Nat.add_assoc]

/-- Sleeps in a row are one. -/
theorem run_map_sleep (gateway : Gateway) (parts : List Nat) :
    gateway.run (parts.map .sleep) = (gateway.sleep parts.sum, []) := by
  induction parts generalizing gateway with
  | nil => exact congrArg (·, []) gateway.sleep_zero.symm
  | cons part parts inductionHypothesis =>
      rw [List.map_cons, run_cons, List.sum_cons, ← sleep_add]
      exact inductionHypothesis (gateway.sleep part)

/-- However a sleep of a run is split, the run comes to the same. -/
theorem run_split
    (gateway : Gateway)
    (before : List Event)
    (parts : List Nat)
    (after : List Event) :
    gateway.run (before ++ parts.map .sleep ++ after) =
      gateway.run (before ++ .sleep parts.sum :: after) := by
  rw [List.append_assoc, run_append, run_append, run_append, run_map_sleep,
    run_cons]
  rfl

/-! ## What keeps the timer running -/

@[simp] theorem isSweeping_setClock (gateway : Gateway) (nowMs : Int64) :
    (gateway.setClock nowMs).isSweeping = gateway.isSweeping := by
  simp [setClock, isSweeping]

@[simp] theorem isSweeping_shutdown (gateway : Gateway) :
    gateway.shutdown.isSweeping = false := by
  simp [shutdown, isSweeping]

@[simp] theorem config_step (gateway : Gateway) (event : Event) :
    (gateway.step event).1.config = gateway.config := by
  cases event with
  | request moment request => rw [step_request, config_charge]
  | sleep millis => exact gateway.config_sleep millis
  | setClock nowMs => rfl
  | shutdown => rfl

@[simp] theorem config_run (gateway : Gateway) (events : List Event) :
    (gateway.run events).1.config = gateway.config := by
  induction events generalizing gateway with
  | nil => rfl
  | cons event events inductionHypothesis =>
      rw [run_cons, inductionHypothesis, config_step]

@[simp] theorem sleptMs_step (gateway : Gateway) (event : Event) :
    (gateway.step event).1.sleptMs = gateway.sleptMs + event.millis := by
  cases event with
  | request moment request => rw [step_request, sleptMs_charge]; rfl
  | sleep millis => rfl
  | setClock nowMs => rfl
  | shutdown => rfl

/-- A run has slept for as long as its events say. -/
theorem sleptMs_run (gateway : Gateway) (events : List Event) :
    (gateway.run events).1.sleptMs = gateway.sleptMs + slept events := by
  induction events generalizing gateway with
  | nil => rfl
  | cons event events inductionHypothesis =>
      rw [run_cons, inductionHypothesis, sleptMs_step, Nat.add_assoc]
      rfl

/-- Nothing but a shutdown stops the timer. -/
theorem isSweeping_step (gateway : Gateway) (event : Event) :
    (gateway.step event).1.isSweeping =
      (gateway.isSweeping && !event.isShutdown) := by
  cases event with
  | request moment request =>
      rw [step_request, isSweeping_charge]
      exact (Bool.and_true _).symm
  | sleep millis =>
      exact (gateway.isSweeping_sleep millis).trans (Bool.and_true _).symm
  | setClock nowMs =>
      exact (gateway.isSweeping_setClock nowMs).trans (Bool.and_true _).symm
  | shutdown => exact gateway.isSweeping_shutdown.trans (Bool.and_false _).symm

theorem isSweeping_run (gateway : Gateway) (events : List Event) :
    (gateway.run events).1.isSweeping =
      (gateway.isSweeping && !events.any Event.isShutdown) := by
  induction events generalizing gateway with
  | nil => exact (Bool.and_true _).symm
  | cons event events inductionHypothesis =>
      rw [run_cons, inductionHypothesis, isSweeping_step, List.any_cons,
        Bool.not_or, Bool.and_assoc]

theorem sweepIntervalMs_pos
    {gateway : Gateway}
    (sweeping : gateway.isSweeping = true) :
    0 < gateway.config.sweepIntervalMs := by
  simp only [isSweeping, Settings.Config.isSweeping, Bool.and_eq_true,
    decide_eq_true_eq] at sweeping
  omega

theorem isShuttingDown_of_isSweeping
    {gateway : Gateway}
    (sweeping : gateway.isSweeping = true) : gateway.isShuttingDown = false := by
  simp only [isSweeping, Bool.and_eq_true, Bool.not_eq_true'] at sweeping
  exact sweeping.2

end Gateway

/-! ## The task -/

/-- The whole multiples of a period up to some time, but for zero. -/
def multiples (period millis : Nat) : List Nat :=
  (List.range (millis / period)).map fun count => (count + 1) * period

/-- A period is completed by the multiple that follows those before. -/
theorem next_multiple_eq
    {period millis : Nat}
    (completes : period ∣ millis + 1) :
    (millis / period + 1) * period = millis + 1 := by
  have quotient : (millis + 1) / period = millis / period + 1 := by
    rw [Nat.succ_div, if_pos completes]
  rw [← quotient, Nat.div_mul_cancel completes]

/-- The next multiple is due in the millisecond that completes a period. -/
theorem next_multiple_le_iff {period : Nat} (positive : 0 < period) (millis : Nat) :
    (millis / period + 1) * period ≤ millis + 1 ↔ period ∣ millis + 1 := by
  have later : millis < (millis / period + 1) * period := by
    rw [Nat.mul_comm]
    exact Nat.lt_mul_div_succ millis positive
  constructor
  · intro due
    exact ⟨_, (Nat.le_antisymm later due).trans (Nat.mul_comm ..)⟩
  · intro completes
    exact (next_multiple_eq completes).le

theorem multiples_succ (period millis : Nat) :
    multiples period (millis + 1) = multiples period millis ++
      if period ∣ millis + 1 then [millis + 1] else [] := by
  rw [multiples, Nat.succ_div]
  split
  · next completes =>
      rw [List.range_succ, List.map_append, List.map_singleton,
        next_multiple_eq completes]
      rfl
  · rw [Nat.add_zero, List.append_nil]
    rfl

namespace Sweeper

open Gateway (Event)

/-- Whether a task waits for the next multiple of its period, having swept at all
those before, or has ended. -/
structure OnTime (sweeper : Sweeper) : Prop where
  stage : sweeper.stage =
    if sweeper.gateway.isSweeping then .waiting else .ended
  due : sweeper.gateway.isSweeping = true →
    sweeper.dueMs =
      (sweeper.gateway.sleptMs / sweeper.gateway.config.sweepIntervalMs + 1) *
        sweeper.gateway.config.sweepIntervalMs
  noted : sweeper.gateway.isSweeping = true →
    sweeper.sweeps.map Sweep.atMs =
      multiples sweeper.gateway.config.sweepIntervalMs sweeper.gateway.sleptMs

/-- The first tick is skipped: the task starts waiting for the second one. -/
theorem onTime_ofParts (config : Settings.Config) (limiter : Option Limiter) :
    (ofParts config limiter).OnTime ∧
      (ofParts config limiter).gateway = .ofParts config limiter ∧
      (ofParts config limiter).sweeps = [] := by
  cases needed : limiter.isSome && config.isSweeping with
  | false =>
      refine ⟨⟨?_, ?_, ?_⟩, ?_, ?_⟩ <;>
        simp [ofParts, poll, Gateway.ofParts, Gateway.isSweeping, needed]
  | true =>
      refine ⟨⟨?_, ?_, ?_⟩, ?_, ?_⟩ <;>
        simp [ofParts, poll, isDue, tick, multiples, Gateway.ofParts,
          Gateway.isSweeping, needed]

section OnTime

variable {sweeper : Sweeper}

theorem OnTime.waiting
    (onTime : sweeper.OnTime)
    (sweeping : sweeper.gateway.isSweeping = true) :
    sweeper.stage = .waiting := by
  rw [onTime.stage, if_pos sweeping]

theorem OnTime.ended
    (onTime : sweeper.OnTime)
    (idle : sweeper.gateway.isSweeping = false) : sweeper.stage = .ended := by
  rw [onTime.stage, idle]
  rfl

theorem poll_of_ended (ended : sweeper.stage = .ended) :
    sweeper.poll = sweeper := by
  rw [poll, ended]

/-- The shutdown is looked for before the tick. -/
theorem poll_of_shutdown
    (waiting : sweeper.stage = .waiting)
    (stopped : sweeper.gateway.isShuttingDown = true) :
    sweeper.poll = { sweeper with stage := .ended } := by
  rw [poll, waiting]
  exact if_pos stopped

theorem poll_of_waiting
    (waiting : sweeper.stage = .waiting)
    (running : sweeper.gateway.isShuttingDown = false) :
    sweeper.poll =
      if sweeper.dueMs ≤ sweeper.gateway.sleptMs then sweeper.tick.sweep
      else sweeper := by
  rw [poll, waiting]
  simp [running, isDue]

/-- A millisecond goes by for the task as it does for the gateway, and a sweep in it
is noted. -/
theorem OnTime.pass_eq (onTime : sweeper.OnTime) :
    sweeper.pass =
      if sweeper.gateway.isSweeping = true ∧
          sweeper.gateway.config.sweepIntervalMs ∣ sweeper.gateway.sleptMs + 1 then
        { gateway := sweeper.gateway.sleep 1
          stage := sweeper.stage
          dueMs := sweeper.dueMs + sweeper.gateway.config.sweepIntervalMs
          sweeps := sweeper.sweeps ++
            [{ atMs := sweeper.gateway.sleptMs + 1
               met :=
                { sweeper.gateway with sleptMs := sweeper.gateway.sleptMs + 1 }
               left := sweeper.gateway.sleep 1 }] }
      else { sweeper with gateway := sweeper.gateway.sleep 1 } := by
  cases sweeping : sweeper.gateway.isSweeping with
  | false =>
      rw [if_neg (fun both => Bool.false_ne_true both.1),
        Gateway.sleep_of_idle sweeping]
      exact poll_of_ended (onTime.ended sweeping)
  | true =>
      -- The tick is due just if this millisecond completes a period.
      have due := next_multiple_le_iff (Gateway.sweepIntervalMs_pos sweeping)
        sweeper.gateway.sleptMs
      rw [← onTime.due sweeping] at due
      have polled : sweeper.pass = _ :=
        poll_of_waiting (onTime.waiting sweeping)
          (Gateway.isShuttingDown_of_isSweeping sweeping)
      rw [polled]
      by_cases completes : sweeper.gateway.config.sweepIntervalMs ∣
          sweeper.gateway.sleptMs + 1
      · rw [if_pos (due.2 completes), if_pos ⟨rfl, completes⟩,
          Gateway.sleep_one_of_dvd sweeping completes]
        simp only [tick, sweep, Gateway.sweep_of_slept]
      · rw [if_neg (mt due.1 completes), if_neg (fun both => completes both.2),
          Gateway.sleep_one_of_not_dvd completes]

theorem OnTime.gateway_pass (onTime : sweeper.OnTime) :
    sweeper.pass.gateway = sweeper.gateway.sleep 1 := by
  rw [onTime.pass_eq]
  split <;> rfl

/-- A task that is on time stays so. -/
theorem OnTime.pass (onTime : sweeper.OnTime) : sweeper.pass.OnTime := by
  have gateway := onTime.gateway_pass
  constructor
  case stage =>
    rw [gateway, Gateway.isSweeping_sleep, onTime.pass_eq]
    split <;> exact onTime.stage
  case due =>
    intro sweeping
    rw [gateway, Gateway.isSweeping_sleep] at sweeping
    rw [gateway, Gateway.config_sleep, Gateway.sleptMs_sleep, Nat.succ_div,
      onTime.pass_eq]
    by_cases completes : sweeper.gateway.config.sweepIntervalMs ∣
        sweeper.gateway.sleptMs + 1
    · rw [if_pos ⟨sweeping, completes⟩, if_pos completes, Nat.add_one_mul,
        ← onTime.due sweeping]
    · rw [if_neg (fun both => completes both.2), if_neg completes,
        Nat.add_zero]
      exact onTime.due sweeping
  case noted =>
    intro sweeping
    rw [gateway, Gateway.isSweeping_sleep] at sweeping
    rw [gateway, Gateway.config_sleep, Gateway.sleptMs_sleep, multiples_succ,
      ← onTime.noted sweeping, onTime.pass_eq]
    by_cases completes : sweeper.gateway.config.sweepIntervalMs ∣
        sweeper.gateway.sleptMs + 1
    · rw [if_pos ⟨sweeping, completes⟩, if_pos completes, List.map_append]
      rfl
    · rw [if_neg (fun both => completes both.2), if_neg completes,
        List.append_nil]

/-- A sleep goes by for the task as it does for the gateway. -/
theorem OnTime.sleep (onTime : sweeper.OnTime) (millis : Nat) :
    (Nat.repeat Sweeper.pass millis sweeper).OnTime ∧
      (Nat.repeat Sweeper.pass millis sweeper).gateway =
        sweeper.gateway.sleep millis := by
  induction millis with
  | zero => exact ⟨onTime, sweeper.gateway.sleep_zero.symm⟩
  | succ millis inductionHypothesis =>
      obtain ⟨before, same⟩ := inductionHypothesis
      refine ⟨before.pass, ?_⟩
      rw [Gateway.sleep_succ, ← same]
      exact before.gateway_pass

/-- What leaves the timer alone leaves the task on time. -/
theorem OnTime.congr
    (onTime : sweeper.OnTime)
    {gateway : Gateway}
    (sameConfig : gateway.config = sweeper.gateway.config)
    (sameTime : gateway.sleptMs = sweeper.gateway.sleptMs)
    (sameTimer : gateway.isSweeping = sweeper.gateway.isSweeping) :
    OnTime { sweeper with gateway := gateway } := by
  constructor
  case stage => exact sameTimer ▸ onTime.stage
  case due =>
    intro sweeping
    rw [sameConfig, sameTime]
    exact onTime.due (sameTimer ▸ sweeping)
  case noted =>
    intro sweeping
    rw [sameConfig, sameTime]
    exact onTime.noted (sameTimer ▸ sweeping)

/-- The task ends with the shutdown, whatever was due. -/
theorem OnTime.shutdown (onTime : sweeper.OnTime) :
    poll { sweeper with gateway := sweeper.gateway.shutdown } =
      { sweeper with
        gateway := sweeper.gateway.shutdown
        stage := .ended } := by
  cases sweeping : sweeper.gateway.isSweeping with
  | false =>
      have ended := onTime.ended sweeping
      rw [← ended]
      exact poll_of_ended ended
  | true => exact poll_of_shutdown (onTime.waiting sweeping) rfl

/-- An event leaves the task on time, and is for the gateway what it is for the
task. -/
theorem OnTime.step (onTime : sweeper.OnTime) (event : Event) :
    (sweeper.step event).1.OnTime ∧
      sweeper.gateway.step event =
        ((sweeper.step event).1.gateway, (sweeper.step event).2) := by
  cases event with
  | request moment request =>
      refine ⟨?_, rfl⟩
      rw [Sweeper.step, Gateway.handle_eq]
      exact onTime.congr (Gateway.config_charge ..) (Gateway.sleptMs_charge ..)
        (Gateway.isSweeping_charge ..)
  | sleep millis =>
      obtain ⟨later, same⟩ := onTime.sleep millis
      exact ⟨later, congrArg (·, none) same.symm⟩
  | setClock nowMs =>
      exact ⟨onTime.congr rfl rfl (Gateway.isSweeping_setClock ..), rfl⟩
  | shutdown =>
      have stopped := Gateway.isSweeping_shutdown sweeper.gateway
      rw [Sweeper.step, onTime.shutdown]
      refine ⟨⟨?_, ?_, ?_⟩, rfl⟩ <;> simp [stopped]

theorem run_cons (sweeper : Sweeper) (event : Event) (events : List Event) :
    sweeper.run (event :: events) =
      (((sweeper.step event).1.run events).1,
        (sweeper.step event).2.toList ++ ((sweeper.step event).1.run events).2) :=
  rfl

/-- A run leaves the task on time, and is for the gateway what it is for the task. -/
theorem OnTime.run (onTime : sweeper.OnTime) (events : List Event) :
    (sweeper.run events).1.OnTime ∧
      sweeper.gateway.run events =
        ((sweeper.run events).1.gateway, (sweeper.run events).2) := by
  induction events generalizing sweeper with
  | nil => exact ⟨onTime, rfl⟩
  | cons event events inductionHypothesis =>
      obtain ⟨next, stepped⟩ := onTime.step event
      obtain ⟨final, ran⟩ := inductionHypothesis next
      refine ⟨final, ?_⟩
      rw [Gateway.run_cons, stepped, ran]
      rfl

end OnTime

end Sweeper
end Turnstile
