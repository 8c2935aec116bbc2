import Turnstile.Proofs.DistantClock
import Turnstile.Proofs.Eviction
import Turnstile.Proofs.Gateway.Sweeps

/-!
# What a shutdown ends and what it leaves

A shutdown ends the sweeps for good.  Time goes by after it and nothing else, and
callers that ask are told to turn elsewhere.

Requests are still answered, and the limiter decides on them as it would have done
with the sweeps going on.  Two gateways show it, of which one still sweeps and the
other one has been shut down.  The one that sweeps stores the buckets of the other
but for some replenished ones, and as long as the clock does not go back that
stays so.

With two kinds of buckets it is otherwise.  One that was put into the store full, and
not by a check, may be taken away although its first interval is not over yet.  One
that the clock leaves too far behind is not refilled any more, unless a sweep takes it
away in time.
-/

namespace Turnstile

open Http Settings

namespace Gateway

/-! ## Decisions -/

/-- What an event asks the limiter's clock to do. -/
def Event.move? : Event → Option Limiter.Event
  | .setClock nowMs => some (.setClock nowMs)
  | _ => none

/-- The clock moves of a run. -/
def moves (events : List Event) : List Limiter.Event :=
  events.filterMap Event.move?

/-- A run without its shutdowns. -/
def withoutShutdowns (events : List Event) : List Event :=
  events.filter fun event => !event.isShutdown

/-- The decisions on the requests of a run, none for those that are not checked. -/
def decisions (gateway : Gateway) : List Event → List (Option Decision)
  | [] => []
  | .request moment request :: events =>
      gateway.decision? request ::
        (gateway.step (.request moment request)).1.decisions events
  | event :: events => (gateway.step event).1.decisions events

/-- A limiter whose clock does not go back in what is left of a run, and can tell how
long ago its buckets were refilled. -/
structure Steady (limiter : Limiter) (moves : List Limiter.Event) : Prop where
  settled : limiter.Settled
  follows : limiter.Follows Clock.Spans moves
  ascending : limiter.Ascending moves

section Steady

variable
  {limiter : Limiter}
  {moves : List Limiter.Event}

theorem Steady.consume
    (steady : Steady limiter moves)
    (key : String) : Steady (limiter.consume key).1 moves where
  settled := steady.settled.step (.consume key)
  follows := by
    have checks : limiter.Follows Clock.Spans (.consume key :: moves) :=
      ⟨steady.follows.stored, steady.follows.readings⟩
    exact checks.step Clock.Spans.refl
  ascending := steady.ascending

theorem Steady.evictIdle (steady : Steady limiter moves) :
    Steady limiter.evictIdle.1 moves where
  settled := steady.settled.step .evictIdle
  follows := by
    have sweeps : limiter.Follows Clock.Spans (.evictIdle :: moves) :=
      ⟨steady.follows.stored, steady.follows.readings⟩
    exact sweeps.step Clock.Spans.refl
  ascending := steady.ascending

theorem Steady.setClock
    {nowMs : Int64}
    (steady : Steady limiter (.setClock nowMs :: moves)) :
    Steady (limiter.step (.setClock nowMs)).1 moves where
  settled := steady.settled.step _
  follows := steady.follows.step Clock.Spans.refl
  ascending := (List.pairwise_cons.1 steady.ascending).2

/-- The clock moves on, if it moves. -/
theorem Steady.ordered
    {nowMs : Int64}
    (steady : Steady limiter (.setClock nowMs :: moves)) :
    limiter.clock.nowMs.toInt ≤ nowMs.toInt :=
  (List.pairwise_cons.1 steady.ascending).1 nowMs List.mem_cons_self

end Steady

/-! ## Going on without sweeps -/

/-- Two gateways of one configuration, before what is left of a run.  They are still
the same, or the second one sweeps no more.  Its clock does not go back, and the
first one stores its buckets but for some replenished ones. -/
structure Trails
    (few all : Limiter)
    (events : List Event)
    (thinned whole : Gateway) : Prop where
  config : thinned.config = whole.config
  abreast : whole.isSweeping = false ∨ thinned = whole
  thinnedLimiter : thinned.limiter = some few
  wholeLimiter : whole.limiter = some all
  settled : few.Settled
  steady : Steady all (moves events)
  thins : Limiter.Thins few all

section Trails

variable
  {few all : Limiter}
  {thinned whole : Gateway}
  {events : List Event}

/-- The gateways decide alike on a request. -/
theorem Trails.decision?
    (trails : Trails few all events thinned whole)
    (request : Request) :
    thinned.decision? request = whole.decision? request := by
  have same := enforcement_of_config trails.config
  rw [Gateway.decision?, Gateway.decision?, trails.thinnedLimiter, trails.wholeLimiter,
    Option.bind_some, Option.bind_some, same, Limiter.decision_consume,
    Limiter.decision_consume,
    trails.thins.take_bucketFor trails.steady.settled trails.steady.follows]

theorem Trails.charge
    {moment : Moment}
    {request : Request}
    (trails : Trails few all (.request moment request :: events) thinned whole) :
    Trails (thinned.checkedLimiter request few)
      (whole.checkedLimiter request all) events
      (thinned.charge request) (whole.charge request) where
  config := by rw [config_charge, config_charge, trails.config]
  abreast := by
    rw [isSweeping_charge]
    exact trails.abreast.imp_right (congrArg (Gateway.charge · request))
  thinnedLimiter := by rw [limiter_charge, trails.thinnedLimiter, Option.map_some]
  wholeLimiter := by rw [limiter_charge, trails.wholeLimiter, Option.map_some]
  settled := by
    rw [checkedLimiter]
    split
    · exact trails.settled
    · exact trails.settled.step (.consume _)
  steady := by
    rw [checkedLimiter]
    split
    · exact trails.steady
    · exact trails.steady.consume _
  thins := by
    rw [checkedLimiter, checkedLimiter, enforcement_of_config trails.config]
    split
    · exact trails.thins
    · exact trails.thins.consume trails.steady.settled trails.steady.follows _

theorem Trails.sleep
    {millis : Nat}
    (trails : Trails few all (.sleep millis :: events) thinned whole) :
    ∃ fewer rest, Trails fewer rest events (thinned.sleep millis)
      (whole.sleep millis) := by
  obtain idle | same := trails.abreast
  · -- The second gateway rests, and the first one may sweep what it likes.
    have sweeps (limiter : Limiter)
        (before : limiter.Settled ∧ Limiter.Thins limiter all) :
        limiter.evictIdle.1.Settled ∧ Limiter.Thins limiter.evictIdle.1 all :=
      ⟨before.1.step .evictIdle, before.2.evictIdle before.1⟩
    obtain ⟨fewer, present, settled, thins⟩ :=
      exists_limiter_sleep _ sweeps trails.thinnedLimiter
        ⟨trails.settled, trails.thins⟩ millis
    refine ⟨fewer, all, ?_⟩
    exact
      { config := by rw [config_sleep, config_sleep, trails.config]
        abreast := Or.inl (by rw [isSweeping_sleep, idle])
        thinnedLimiter := present
        wholeLimiter := by rw [sleep_of_idle idle]; exact trails.wholeLimiter
        settled := settled
        steady := trails.steady
        thins := thins }
  · -- Both gateways sweep alike.
    subst same
    obtain ⟨swept, present, steady⟩ :=
      exists_limiter_sleep (Steady · (moves events))
        (fun _ steady => steady.evictIdle) trails.wholeLimiter trails.steady
        millis
    refine ⟨swept, swept, ?_⟩
    exact
      { config := rfl
        abreast := Or.inr rfl
        thinnedLimiter := present
        wholeLimiter := present
        settled := steady.settled
        steady := steady
        thins := .refl swept }

theorem Trails.setClock
    {nowMs : Int64}
    (trails : Trails few all (.setClock nowMs :: events) thinned whole) :
    Trails (few.step (.setClock nowMs)).1 (all.step (.setClock nowMs)).1 events
      (thinned.setClock nowMs) (whole.setClock nowMs) where
  config := trails.config
  abreast := by
    rw [isSweeping_setClock]
    exact trails.abreast.imp_right (congrArg (Gateway.setClock · nowMs))
  thinnedLimiter := by
    rw [Gateway.setClock, trails.thinnedLimiter, Option.map_some]
    rfl
  wholeLimiter := by
    rw [Gateway.setClock, trails.wholeLimiter, Option.map_some]
    rfl
  settled := trails.settled.step _
  steady := trails.steady.setClock
  thins := trails.thins.setClock trails.steady.follows trails.steady.ordered

theorem Trails.shutdown
    (trails : Trails few all (.shutdown :: events) thinned whole) :
    Trails few all events thinned whole.shutdown :=
  { trails with abreast := Or.inl (isSweeping_shutdown whole) }

/-- A gateway that goes on without sweeps decides like one that does not. -/
theorem Trails.decisions
    (trails : Trails few all events thinned whole) :
    thinned.decisions (withoutShutdowns events) = whole.decisions events := by
  induction events generalizing few all thinned whole with
  | nil => rfl
  | cons event events inductionHypothesis =>
      cases event with
      | request moment request =>
          have later := inductionHypothesis trails.charge
          rw [← step_request thinned moment, ← step_request whole moment] at later
          exact congrArg₂ List.cons (trails.decision? request) later
      | sleep millis =>
          obtain ⟨fewer, rest, later⟩ := trails.sleep
          exact inductionHypothesis later
      | setClock nowMs => exact inductionHypothesis trails.setClock
      | shutdown => exact inductionHypothesis trails.shutdown

end Trails

/-! ## The shutdown -/

@[simp] theorem isShuttingDown_sleep (gateway : Gateway) (millis : Nat) :
    (gateway.sleep millis).isShuttingDown = gateway.isShuttingDown :=
  apply_sleep isShuttingDown isShuttingDown_sweep (fun _ _ => rfl) gateway millis

theorem isShuttingDown_step (gateway : Gateway) (event : Event) :
    (gateway.step event).1.isShuttingDown =
      (gateway.isShuttingDown || event.isShutdown) := by
  cases event with
  | request moment request =>
      rw [step_request, isShuttingDown_charge]
      exact (Bool.or_false _).symm
  | sleep millis =>
      exact (gateway.isShuttingDown_sleep millis).trans (Bool.or_false _).symm
  | setClock nowMs => exact (Bool.or_false _).symm
  | shutdown => exact (Bool.or_true _).symm

theorem isShuttingDown_run (gateway : Gateway) (events : List Event) :
    (gateway.run events).1.isShuttingDown =
      (gateway.isShuttingDown || events.any Event.isShutdown) := by
  induction events generalizing gateway with
  | nil => exact (Bool.or_false _).symm
  | cons event events inductionHypothesis =>
      rw [run_cons, inductionHypothesis, isShuttingDown_step, List.any_cons,
        Bool.or_assoc]

/-- Another shutdown changes nothing. -/
theorem shutdown_of_isShuttingDown
    {gateway : Gateway}
    (stopped : gateway.isShuttingDown = true) : gateway.shutdown = gateway := by
  rw [shutdown, ← stopped]

/-- Whether the gateway is ready is told to everybody who is not refused. -/
theorem status_of_ready
    (gateway : Gateway)
    (moment : Moment)
    {request : Request}
    (method : request.method = "GET")
    (path : request.path = "/ready") :
    (gateway.handle moment request).2.status =
      if isRefusal (gateway.decision? request) then 429
      else if gateway.isShuttingDown then 503 else 200 := by
  rw [status_handle, respond, path]
  simp [Route.ofPath?, hasMethod, method, serve, Response.ofStatus]

end Gateway

namespace Sweeper

open Gateway (Event slept)

variable {sweeper : Sweeper}

/-- A task that has ended notes nothing more. -/
theorem sweeps_step_of_ended
    (ended : sweeper.stage = .ended)
    (event : Event) :
    (sweeper.step event).1.stage = .ended ∧
      (sweeper.step event).1.sweeps = sweeper.sweeps := by
  cases event with
  | request moment request => exact ⟨ended, rfl⟩
  | sleep millis =>
      change (Nat.repeat pass millis sweeper).stage = _ ∧
        (Nat.repeat pass millis sweeper).sweeps = _
      induction millis with
      | zero => exact ⟨ended, rfl⟩
      | succ millis inductionHypothesis =>
          obtain ⟨still, same⟩ := inductionHypothesis
          have idle : (Nat.repeat pass (millis + 1) sweeper) = _ :=
            poll_of_ended still
          rw [idle]
          exact ⟨still, same⟩
  | setClock nowMs => exact ⟨ended, rfl⟩
  | shutdown =>
      have idle : (sweeper.step .shutdown).1 = _ := poll_of_ended ended
      rw [idle]
      exact ⟨ended, rfl⟩

theorem sweeps_run_of_ended
    (ended : sweeper.stage = .ended)
    (events : List Event) :
    (sweeper.run events).1.sweeps = sweeper.sweeps := by
  induction events generalizing sweeper with
  | nil => rfl
  | cons event events inductionHypothesis =>
      obtain ⟨still, same⟩ := sweeps_step_of_ended ended event
      rw [run_cons, inductionHypothesis still, same]

/-- A task that is on time sweeps at all multiples of its period until the
shutdown, and at no other time. -/
theorem OnTime.instants_run
    (onTime : sweeper.OnTime)
    (sweeping : sweeper.gateway.isSweeping = true)
    (events : List Event) :
    (sweeper.run events).1.sweeps.map Sweep.atMs =
      multiples sweeper.gateway.config.sweepIntervalMs
        (sweeper.gateway.sleptMs +
          slept (events.takeWhile fun event => !event.isShutdown)) := by
  induction events generalizing sweeper with
  | nil => exact onTime.noted sweeping
  | cons event events inductionHypothesis =>
      obtain ⟨later, stepped⟩ := onTime.step event
      have next : (sweeper.step event).1.gateway =
          (sweeper.gateway.step event).1 := (congrArg Prod.fst stepped).symm
      have timer := sweeper.gateway.isSweeping_step event
      rw [sweeping, Bool.true_and, ← next] at timer
      cases ends : event.isShutdown with
      | true =>
          obtain rfl : event = .shutdown := by
            cases event with
            | shutdown => rfl
            | _ => cases ends
          have stopped : (sweeper.step .shutdown).1 = _ := onTime.shutdown
          rw [run_cons, sweeps_run_of_ended (by rw [stopped]), stopped,
            List.takeWhile_cons_of_neg (by rw [ends]; decide)]
          exact onTime.noted sweeping
      | false =>
          rw [ends] at timer
          have tail := inductionHypothesis later timer
          rw [next, Gateway.config_step, Gateway.sleptMs_step] at tail
          rw [run_cons, tail, List.takeWhile_cons_of_pos (by rw [ends]; rfl),
            Nat.add_assoc]
          rfl

end Sweeper

namespace Gateway

/-- The timer of a gateway with a limiter, whatever state that limiter is in.  The task
behind it does what the gateway does.  Until the shutdown it sweeps at every whole
multiple of its period and never at the start: what it notes are evictions, each of
them from the limiter that it met, and after any run the next millisecond evicts and
is noted if it completes a period, and otherwise only goes by.  However a sleep is
split, the run comes to the same.  From the shutdown on a sleep does nothing but pass
the time, another shutdown does nothing at all, and nothing is swept any more;
callers are told that the gateway is not ready, as they were told before that it
is.  And if the limiter has come about by its own events, with a clock whose readings
a signed word can tell apart, and that clock does not go back in the run, it decides
as if there had been no shutdown. -/
theorem sweeps_at_multiples_until_shutdown
    (config : Config)
    (limiter : Limiter)
    (events : List Event)
    (periodic : 0 < config.sweepIntervalMs) :
    let opened := withLimiter config limiter
    let observed := (Sweeper.ofParts config (some limiter)).run events
    let reached := observed.1
    let isStopped := events.any Event.isShutdown
    opened.run events = (reached.gateway, observed.2) ∧
      reached.sweeps.map Sweeper.Sweep.atMs =
        (List.range
            (slept (events.takeWhile fun event => !event.isShutdown) /
              config.sweepIntervalMs)).map
          (fun count => (count + 1) * config.sweepIntervalMs) ∧
      (∀ sweep ∈ reached.sweeps,
        ∃ found, Evicts found sweep.met sweep.left) ∧
      (let next := (reached.step (.sleep 1)).1
        let met := { reached.gateway with sleptMs := slept events + 1 }
        if isStopped = false ∧ config.sweepIntervalMs ∣ slept events + 1 then
          (∃ found, Evicts found met next.gateway) ∧
            next.sweeps = reached.sweeps ++
              [{ atMs := slept events + 1, met, left := next.gateway }]
        else next = { reached with gateway := met }) ∧
      (∀ (parts : List Nat) (later : List Event),
        opened.run (events ++ parts.map .sleep ++ later) =
          opened.run (events ++ .sleep parts.sum :: later)) ∧
      (isStopped = true →
        (∀ millis, reached.gateway.sleep millis =
          { reached.gateway with
            sleptMs := reached.gateway.sleptMs + millis }) ∧
          reached.step .shutdown = (reached, none) ∧
          ∀ later, (reached.run later).1.sweeps = reached.sweeps) ∧
      (∀ moment request,
        request.method = "GET" → request.path = "/ready" →
          (reached.gateway.handle moment request).2.status =
            if isRefusal (reached.gateway.decision? request) then 429
            else if isStopped then 503 else 200) ∧
      (∀ policy clock history,
        limiter = ((Limiter.start policy clock).run history).1 →
          (Limiter.start policy clock).Measurable (history ++ moves events) →
            limiter.Ascending (moves events) →
              opened.decisions events =
                opened.decisions (withoutShutdowns events)) := by
  intro opened observed reached isStopped
  obtain ⟨onTime, begun, -⟩ := Sweeper.onTime_ofParts config (some limiter)
  obtain ⟨final, ran⟩ := onTime.run events
  have sweeping : opened.isSweeping = true := by
    simp [opened, withLimiter, ofParts, isSweeping, Config.isSweeping,
      Nat.ne_of_gt periodic]
  have instants := onTime.instants_run (by rw [begun]; exact sweeping) events
  rw [begun] at ran instants
  have gateway : (opened.run events).1 = reached.gateway :=
    congrArg Prod.fst ran
  have timer := opened.isSweeping_run events
  have stops := opened.isShuttingDown_run events
  rw [gateway] at timer stops
  rw [sweeping, Bool.true_and] at timer
  refine ⟨ran, ?instants,
    Sweeper.wellNoted_run_ofParts config (some limiter) events, ?millisecond,
    opened.run_split events, ?stopped, ?ready, ?decisions⟩
  case instants =>
    rw [instants, multiples]
    exact congrArg (fun millis => (List.range (millis / _)).map _)
      (Nat.zero_add _)
  case millisecond =>
    have time : reached.gateway.sleptMs = slept events := by
      rw [← gateway, sleptMs_run]
      exact Nat.zero_add _
    have period : reached.gateway.config = config := by
      rw [← gateway, config_run]
      rfl
    intro next met
    split
    · next fires =>
        have running : reached.gateway.isSweeping = true := by
          rw [timer]
          exact congrArg not fires.1
        have completes := fires.2
        rw [← period, ← time] at completes
        have evicted := final.millisecond_of_dvd running completes
        rw [time] at evicted
        exact evicted
    · next rests =>
        have passed := final.millisecond_of_not_dvd (by
          rw [timer, Bool.not_eq_true', period, time]
          exact rests)
        rw [time] at passed
        exact passed
  case stopped =>
    intro stopped
    have idle : reached.gateway.isSweeping = false := by
      rw [timer]
      exact congrArg not stopped
    have ended := final.ended idle
    refine ⟨sleep_of_idle idle, ?again, Sweeper.sweeps_run_of_ended ended⟩
    case again =>
      have still : reached.gateway.shutdown = reached.gateway :=
        shutdown_of_isShuttingDown (stops.trans stopped)
      rw [Sweeper.step, still, Sweeper.poll_of_ended ended]
  case ready =>
    intro moment request method path
    rw [status_of_ready _ _ method path, stops]
    rfl
  case decisions =>
    intro policy clock history comesAbout measurable ascending
    have settled : limiter.Settled := by
      rw [comesAbout]
      exact (Limiter.settled_start policy clock).run history
    have follows : limiter.Follows Clock.Spans (moves events) := by
      rw [comesAbout]
      exact (Limiter.follows_start measurable).run Clock.Spans.refl
    have trails : Trails limiter limiter events opened opened :=
      { config := rfl
        abreast := Or.inr rfl
        thinnedLimiter := rfl
        wholeLimiter := rfl
        settled := settled
        steady := ⟨settled, follows, ascending⟩
        thins := .refl limiter }
    exact trails.decisions.symm

/-- Two clients share a limiter whose clock has run back before.  A sweep takes the
first bucket away, then the shutdown comes, and the second bucket stays although
a later tick would have been due.  Its client is decided on as if it were gone. -/
theorem one_of_two_sweeps_before_shutdown :
    let config := { Config.standard with sweepIntervalMs := 5 }
    let fresh := Limiter.start .small { nowMs := 2000 }
    let history : List Limiter.Event := [.consume "ip:0.0.0.3", .setClock 0]
    let limiter := (fresh.run history).1
    let opened := withLimiter config limiter
    let moment : Moment :=
      { timestamp := { day := 0, second := 0, nanos := 0 }
        uptimeSeconds := 0 }
    let get (host : BitVec 32) (target : String) : Request :=
      { method := "GET"
        target
        headers := .empty
        peer := some { address := .v4 host, scope := 0, port := 50000 } }
    let earlier : List Event :=
      [.request moment (get 1 "/api/ping"), .setClock 1000, .sleep 4]
    let events : List Event :=
      earlier ++
        [.sleep 3, .request moment (get 2 "/api/ping"), .shutdown,
          .setClock 2000, .sleep 20, .request moment (get 2 "/api/ping")]
    let paused := ((Sweeper.ofParts config (some limiter)).run earlier).1
    let reached := ((Sweeper.ofParts config (some limiter)).run events).1
    let answered := reached.gateway.handle moment (get 1 "/ready")
    0 < config.sweepIntervalMs ∧ fresh.Measurable (history ++ moves events) ∧
      limiter.Ascending (moves events) ∧
      reached.sweeps.map Sweeper.Sweep.atMs = [5] ∧
      reached.sweeps.map (fun sweep => sweep.met.trackedClients) = [2] ∧
      reached.sweeps.map (fun sweep => sweep.left.trackedClients) = [1] ∧
      reached.sweeps.map (fun sweep => sweep.left.metrics.evicted) = [1] ∧
      (∀ sweep ∈ reached.sweeps,
        ∃ found, Evicts found sweep.met sweep.left) ∧
      (∃ found, Evicts found { paused.gateway with sleptMs := slept earlier + 1 }
        (paused.step (.sleep 1)).1.gateway) ∧
      (∀ later, opened.run (events ++ [1, 6].map .sleep ++ later) =
        opened.run (events ++ .sleep 7 :: later)) ∧
      reached.gateway.sleep 7 =
        { reached.gateway with sleptMs := reached.gateway.sleptMs + 7 } ∧
      answered.2.status = 503 ∧
      opened.decisions events = opened.decisions (withoutShutdowns events) := by
  have periodic : 0 < { Config.standard with sweepIntervalMs := 5 }.sweepIntervalMs := by
    decide
  refine ⟨periodic, by decide +kernel, by decide +kernel, ?instants,
    by decide +kernel, by decide +kernel, by decide +kernel, ?evictions,
    ?millisecond, ?split, ?stopped, ?ready, ?decisions⟩
  case instants =>
    exact (sweeps_at_multiples_until_shutdown _ _ _ periodic).2.1
  case evictions =>
    exact (sweeps_at_multiples_until_shutdown _ _ _ periodic).2.2.1
  case millisecond =>
    exact ((if_pos (by decide +kernel)).mp
      (sweeps_at_multiples_until_shutdown _ _ _ periodic).2.2.2.1).1
  case split =>
    exact (sweeps_at_multiples_until_shutdown _ _ _ periodic).2.2.2.2.1 [1, 6]
  case stopped =>
    exact ((sweeps_at_multiples_until_shutdown _ _ _ periodic).2.2.2.2.2.1
      (by decide +kernel)).1 7
  case ready =>
    exact ((sweeps_at_multiples_until_shutdown _ _ _ periodic).2.2.2.2.2.2.1
      _ _ rfl (by decide +kernel)).trans (by decide +kernel)
  case decisions =>
    exact (sweeps_at_multiples_until_shutdown _ _ _ periodic).2.2.2.2.2.2.2
      _ _ _ rfl (by decide +kernel) (by decide +kernel)

/-- Two runs that are decided on otherwise if their shutdown is left out, so that a
sweep takes a bucket away.  In the first one it is a full bucket that no check has
made, stamped at 0 ms; gone at 999 ms, it is followed by one with a later stamp.  In
the second one it is a spent bucket, and the clock then goes too far from its stamp
for a signed word. -/
theorem decisions_differ_after_shutdown :
    let config := { Config.standard with sweepIntervalMs := 5 }
    let moment : Moment :=
      { timestamp := { day := 0, second := 0, nanos := 0 }
        uptimeSeconds := 0 }
    let ping : Request :=
      { method := "GET"
        target := "/api/ping"
        headers := .empty
        peer := some { address := .v4 0x0A000001, scope := 0, port := 50000 } }
    let unused := Limiter.start .single { nowMs := 0 }
    let acquired := unused.store.acquire "ip:10.0.0.1" (.full 1 0)
    let filled :=
      { unused with store := acquired.store.release acquired.handle }
    let furnished := withLimiter config filled
    let soon : List Event :=
      [.setClock 999, .shutdown, .sleep 5, .request moment ping, .setClock 1000,
        .request moment ping]
    let earliest := Limiter.start .single { nowMs := Int64.minValue }
    let opened := withLimiter config earliest
    let late : List Event :=
      [.request moment ping, .setClock (Int64.minValue + 1000), .shutdown,
        .sleep 5, .setClock Int64.maxValue, .request moment ping]
    0 < config.sweepIntervalMs ∧
      filled.Ascending (moves soon) ∧
      furnished.decisions soon =
        [some (.allowed 1 0 1), some (.allowed 1 0 2)] ∧
      furnished.decisions (withoutShutdowns soon) =
        [some (.allowed 1 0 1), some (.denied 1 1 1)] ∧
      earliest.Ascending (moves late) ∧
      (opened.decisions late).map isRefusal = [false, true] ∧
      (opened.decisions (withoutShutdowns late)).map isRefusal =
        [false, false] := by
  decide +kernel

end Gateway
end Turnstile
