import Turnstile.Proofs.Gateway.Timer
import Turnstile.Proofs.Tracking

/-!
# What a sweep takes away

A sweep evicts the idle buckets of the limiter that it finds, adds them to those
evicted before, and shows how many buckets it leaves.  Nothing else of the gateway
changes.

A task that is on time makes such sweeps and notes them.  A millisecond either
completes a period of the running timer, and then a sweep is made in it and
noted, or it does nothing but go by.
-/

namespace Turnstile

/-- A sweep leaves the buckets that are in use or would not be full if refilled
now. -/
theorem Limiter.get?_evictIdle_eq_some_iff
    {limiter : Limiter}
    {key : String}
    {slot : Slot} :
    limiter.evictIdle.1.store.slots.get? key = some slot ↔
      limiter.store.slots.get? key = some slot ∧
        (0 < slot.handles ∨
          slot.bucket.isReplenished limiter.policy limiter.clock.nowMs = false) := by
  rw [get?_evictIdle, Option.filter_eq_some_iff, Slot.isKept, Bool.or_eq_true,
    decide_eq_true_iff, Bool.not_eq_true']

namespace Gateway

/-- How a sweep leaves the gateway that it met with a limiter. -/
structure Evicts (limiter : Limiter) (met left : Gateway) : Prop where
  found : met.limiter = some limiter
  /-- The idle buckets are evicted. -/
  evicted : left.limiter = some limiter.evictIdle.1
  /-- Buckets that are in use stay, and so do those that would not be full if
  refilled now. -/
  kept : ∀ key slot,
    limiter.evictIdle.1.store.slots.get? key = some slot ↔
      limiter.store.slots.get? key = some slot ∧
        (0 < slot.handles ∨
          slot.bucket.isReplenished limiter.policy limiter.clock.nowMs = false)
  balanced : limiter.evictIdle.2 + left.trackedClients = met.trackedClients
  counted : left.metrics.evicted = met.metrics.evicted + limiter.evictIdle.2
  /-- The gauge shows the buckets that are left. -/
  gauged :
    left.metrics.sweeps.map SweepFigures.tracked = some left.trackedClients
  requests : ∀ outcome,
    left.metrics.requests outcome = met.metrics.requests outcome
  config : left.config = met.config
  sleptMs : left.sleptMs = met.sleptMs
  isShuttingDown : left.isShuttingDown = met.isShuttingDown

theorem evicts_sweep
    {gateway : Gateway}
    {limiter : Limiter}
    (present : gateway.limiter = some limiter) :
    Evicts limiter gateway gateway.sweep where
  found := present
  evicted := by rw [limiter_sweep, present, Option.map_some]
  kept := fun _ _ => Limiter.get?_evictIdle_eq_some_iff
  balanced := by
    rw [trackedClients, trackedClients, limiter_sweep, present]
    exact limiter.removed_add_trackedKeys_evictIdle
  counted := by
    rw [sweep, present]
    rfl
  gauged := by
    rw [sweep, present]
    rfl
  requests := by
    intro outcome
    rw [sweep, present]
    cases outcome <;> rfl
  config := config_sweep gateway
  sleptMs := by
    rw [sweep, present]
  isShuttingDown := isShuttingDown_sweep gateway

theorem exists_limiter_of_isSweeping
    {gateway : Gateway}
    (sweeping : gateway.isSweeping = true) :
    ∃ limiter, gateway.limiter = some limiter := by
  simp only [isSweeping, Bool.and_eq_true] at sweeping
  exact Option.isSome_iff_exists.1 sweeping.1.1

/-- A millisecond that completes a period of the running timer evicts. -/
theorem evicts_sleep_one
    {gateway : Gateway}
    (sweeping : gateway.isSweeping = true)
    (completes : gateway.config.sweepIntervalMs ∣ gateway.sleptMs + 1) :
    ∃ limiter, Evicts limiter { gateway with sleptMs := gateway.sleptMs + 1 }
      (gateway.sleep 1) := by
  obtain ⟨limiter, present⟩ := exists_limiter_of_isSweeping sweeping
  refine ⟨limiter, ?_⟩
  rw [sleep_one_of_dvd sweeping completes, ← sweep_of_slept]
  exact evicts_sweep present

end Gateway

namespace Sweeper

open Gateway (Event Evicts)

/-- Whether each noted sweep left the gateway that it met as a sweep does. -/
def WellNoted (sweeper : Sweeper) : Prop :=
  ∀ sweep ∈ sweeper.sweeps, ∃ limiter, Evicts limiter sweep.met sweep.left

section WellNoted

variable {sweeper : Sweeper}

theorem OnTime.wellNoted_pass
    (onTime : sweeper.OnTime)
    (noted : sweeper.WellNoted) : sweeper.pass.WellNoted := by
  rw [onTime.pass_eq]
  split
  · next fires =>
      intro sweep member
      obtain before | last := List.mem_append.1 member
      · exact noted sweep before
      · rw [List.mem_singleton.1 last]
        exact Gateway.evicts_sleep_one fires.1 fires.2
  · exact noted

theorem OnTime.wellNoted_sleep
    (onTime : sweeper.OnTime)
    (noted : sweeper.WellNoted)
    (millis : Nat) : (Nat.repeat Sweeper.pass millis sweeper).WellNoted := by
  induction millis with
  | zero => exact noted
  | succ millis inductionHypothesis =>
      exact (onTime.sleep millis).1.wellNoted_pass inductionHypothesis

theorem OnTime.wellNoted_step
    (onTime : sweeper.OnTime)
    (noted : sweeper.WellNoted)
    (event : Event) : (sweeper.step event).1.WellNoted := by
  cases event with
  | request moment request => exact noted
  | sleep millis => exact onTime.wellNoted_sleep noted millis
  | setClock nowMs => exact noted
  | shutdown =>
      rw [Sweeper.step, onTime.shutdown]
      exact noted

theorem OnTime.wellNoted_run
    (onTime : sweeper.OnTime)
    (noted : sweeper.WellNoted)
    (events : List Event) : (sweeper.run events).1.WellNoted := by
  induction events generalizing sweeper with
  | nil => exact noted
  | cons event events inductionHypothesis =>
      exact inductionHypothesis (onTime.step event).1
        (onTime.wellNoted_step noted event)

/-- The sweeps of a new task are noted well, all through its runs. -/
theorem wellNoted_run_ofParts
    (config : Settings.Config)
    (limiter : Option Limiter)
    (events : List Event) :
    ((ofParts config limiter).run events).1.WellNoted := by
  obtain ⟨onTime, -, unswept⟩ := onTime_ofParts config limiter
  have noted : (ofParts config limiter).WellNoted := by
    intro sweep member
    rw [unswept] at member
    cases member
  exact onTime.wellNoted_run noted events

end WellNoted

/-! ## One millisecond -/

section Millisecond

variable {sweeper : Sweeper}

/-- A sweep is made and noted in a millisecond that completes a period of the running
timer. -/
theorem OnTime.millisecond_of_dvd
    (onTime : sweeper.OnTime)
    (sweeping : sweeper.gateway.isSweeping = true)
    (completes : sweeper.gateway.config.sweepIntervalMs ∣
      sweeper.gateway.sleptMs + 1) :
    let next := (sweeper.step (.sleep 1)).1
    let met :=
      { sweeper.gateway with sleptMs := sweeper.gateway.sleptMs + 1 }
    (∃ limiter, Evicts limiter met next.gateway) ∧
      next.sweeps = sweeper.sweeps ++
        [{ atMs := met.sleptMs, met, left := next.gateway }] := by
  intro next met
  have passed : next = sweeper.pass := rfl
  rw [onTime.pass_eq, if_pos ⟨sweeping, completes⟩] at passed
  rw [passed]
  exact ⟨Gateway.evicts_sleep_one sweeping completes, rfl⟩

/-- Any other millisecond only goes by. -/
theorem OnTime.millisecond_of_not_dvd
    (onTime : sweeper.OnTime)
    (rests : ¬(sweeper.gateway.isSweeping = true ∧
      sweeper.gateway.config.sweepIntervalMs ∣ sweeper.gateway.sleptMs + 1)) :
    (sweeper.step (.sleep 1)).1 =
      { sweeper with
        gateway :=
          { sweeper.gateway with sleptMs := sweeper.gateway.sleptMs + 1 } } := by
  have passed : (sweeper.step (.sleep 1)).1 = sweeper.pass := rfl
  rw [passed, onTime.pass_eq, if_neg rests]
  cases sweeping : sweeper.gateway.isSweeping with
  | false => rw [Gateway.sleep_of_idle sweeping]
  | true =>
      rw [Gateway.sleep_one_of_not_dvd fun completes =>
        rests ⟨sweeping, completes⟩]

end Millisecond

end Sweeper
end Turnstile
