import Turnstile.Enforcement
import Turnstile.Proofs.Runs

/-!
# Accounts of the enforcement layer

The layer stands between a limiter and a service and counts what it does with
each request.  Here the limiter and the service keep accounts of their own: the
limiter notes every check that it is asked for, and the service every request
that reaches it.  Neither behaves differently for it, so the layer cannot know,
and its figures can be held against the notes.

What a request does to the notes and to the figures depends on whether the
service is ready, on whether the path is exempt, and on what the limiter
decides.  The cases are told apart once, and a run is put together from them.

The limiter may change between requests, as when its clock moves or a sweep
passes.  Those changes and the requests that found the service ready are all
that its state depends on: what the service answers never comes back to it.
-/

namespace Turnstile

open Http

/-- A state with notes of what happened to it. -/
structure Noted (σ α : Type) where
  state : σ
  notes : List α
deriving DecidableEq, Repr

/-- A check that a limiter was asked for, and what it decided. -/
structure Consultation where
  key : String
  decision : Decision
deriving DecidableEq, Repr

/-- A request that reached a service, and the limiter as it was then. -/
structure Visit (σ : Type) where
  limiter : σ
  request : Request
deriving DecidableEq, Repr

/-- A rate limiter with what may happen to it between requests. -/
structure Limiting (σ ω : Type) extends Checking σ where
  between : σ → ω → σ

/-- What comes to a layer in turn. -/
inductive Turn (ω : Type) where
  | request (request : Request)
  | between (event : ω)
deriving DecidableEq, Repr

/-- Whether a turn is a request. -/
def Turn.isRequest {ω : Type} : Turn ω → Bool
  | request _ => true
  | between _ => false

variable {σ ω ι ε : Type}

namespace Metrics

/-- Whether two figures differ by one request counted under an outcome. -/
def CountsOne (outcome : Outcome) (before after : Metrics) : Prop :=
  ∀ other, after.requests other =
    before.requests other + if other = outcome then 1 else 0

theorem countsOne_record (metrics : Metrics) (outcome : Outcome) :
    CountsOne outcome metrics (metrics.record outcome) := by
  intro other
  cases outcome <;> cases other <;> rfl

theorem CountsOne.total
    {outcome : Outcome}
    {before after : Metrics}
    (counts : CountsOne outcome before after) :
    after.total = before.total + 1 := by
  have allowed := counts .allowed
  have denied := counts .denied
  have exempt := counts .exempt
  simp only [requests] at allowed denied exempt
  rw [Metrics.total, Metrics.total]
  cases outcome <;> simp at allowed denied exempt <;> omega

/-- The requests counted as handed on to the service. -/
def handedOn (metrics : Metrics) : Nat :=
  metrics.allowed + metrics.exempt

/-- One request more is handed on, unless it is counted as denied. -/
theorem CountsOne.handedOn
    {outcome : Outcome}
    {before after : Metrics}
    (counts : CountsOne outcome before after) :
    after.handedOn =
      before.handedOn + if outcome = .denied then 0 else 1 := by
  have allowed := counts .allowed
  have exempt := counts .exempt
  simp only [requests] at allowed exempt
  rw [Metrics.handedOn, Metrics.handedOn]
  cases outcome <;> simp at allowed exempt ⊢ <;> omega

end Metrics

/-- The token bucket limiter, with its own events between requests. -/
def Limiting.ofBuckets : Limiting Limiter Limiter.Event where
  consume := Limiter.consume
  between limiter event := (limiter.step event).1

/-! ## Notes -/

/-- A limiter that notes the checks it is asked for. -/
def Limiting.noting (limiting : Limiting σ ω) :
    Limiting (Noted σ Consultation) ω where
  consume noted key :=
    let (next, decision) := limiting.consume noted.state key
    ({ state := next, notes := noted.notes ++ [{ key, decision }] }, decision)
  between noted event :=
    { noted with state := limiting.between noted.state event }

/-- A service that notes the requests that reach it. -/
def Service.noting (service : Service σ ι ε) :
    Service (Noted σ Consultation) (Noted ι (Visit σ)) ε where
  unready? noted := service.unready? noted.state
  call limiter noted request :=
    let (next, answer) := service.call limiter.state noted.state request
    let visit := { limiter := limiter.state, request }
    ({ state := next, notes := noted.notes ++ [visit] }, answer)

/-- The states around a layer whose limiter and service keep notes. -/
abbrev Observed (σ ι : Type) : Type :=
  Guarded (Noted σ Consultation) (Noted ι (Visit σ))

/-- The states with no notes taken yet. -/
def Guarded.observed (state : Guarded σ ι) : Observed σ ι where
  limiter := { state := state.limiter, notes := [] }
  inner := { state := state.inner, notes := [] }
  metrics := state.metrics

/-- The states without the notes. -/
def Guarded.plain (observed : Observed σ ι) : Guarded σ ι where
  limiter := observed.limiter.state
  inner := observed.inner.state
  metrics := observed.metrics

namespace Enforcement

/-! ## One request -/

theorem isExempt_iff (enforcement : Enforcement) (path : String) :
    enforcement.isExempt path = true ↔
      ∃ beginning ∈ enforcement.exemptPaths,
        beginning.toList <+: path.toList := by
  simp [isExempt]

section Request

variable
  {enforcement : Enforcement}
  {checking : Checking σ}
  {service : Service σ ι ε}
  {state : Guarded σ ι}
  {request : Request}

theorem drive_of_unready
    {error : ε}
    (unready : service.unready? state.inner = some error) :
    (enforcement.drive checking service state request).1 = state := by
  rw [drive, unready]

theorem drive_of_ready (ready : service.unready? state.inner = none) :
    enforcement.drive checking service state request =
      enforcement.call checking service state request := by
  rw [drive, ready]

theorem call_of_exempt (exempt : enforcement.isExempt request.path = true) :
    (enforcement.call checking service state request).1 =
      { state with
        inner := (service.call state.limiter state.inner request).1
        metrics := state.metrics.record .exempt } := by
  rw [call, if_pos exempt]

theorem call_of_allowed
    (checked : enforcement.isExempt request.path = false)
    (allowed : (checking.consume state.limiter
      (enforcement.resolver.resolve request)).2.isAllowed = true) :
    let limiter := (checking.consume state.limiter
      (enforcement.resolver.resolve request)).1
    (enforcement.call checking service state request).1 =
      { limiter
        inner := (service.call limiter state.inner request).1
        metrics := state.metrics.record .allowed } := by
  simp only [call, checked, allowed, if_true, Bool.false_eq_true, if_false]

theorem call_of_denied
    (checked : enforcement.isExempt request.path = false)
    (denied : (checking.consume state.limiter
      (enforcement.resolver.resolve request)).2.isAllowed = false) :
    (enforcement.call checking service state request).1 =
      { state with
        limiter := (checking.consume state.limiter
          (enforcement.resolver.resolve request)).1
        metrics := state.metrics.record .denied } := by
  simp only [call, checked, denied, Bool.false_eq_true, if_false]

/-- Whatever the service answers, the limiter is left as the one check leaves it, or
as it was if the path is exempt. -/
theorem limiter_call :
    (enforcement.call checking service state request).1.limiter =
      if enforcement.isExempt request.path then state.limiter
      else (checking.consume state.limiter
        (enforcement.resolver.resolve request)).1 := by
  cases exempt : enforcement.isExempt request.path with
  | true =>
      rw [call_of_exempt exempt]
      rfl
  | false =>
      cases decided : (checking.consume state.limiter
          (enforcement.resolver.resolve request)).2.isAllowed with
      | true =>
          rw [call_of_allowed exempt decided]
          rfl
      | false =>
          rw [call_of_denied exempt decided]
          rfl

end Request

/-! ## Runs -/

/-- One turn, with the passage of a request. -/
def step
    (enforcement : Enforcement)
    (limiting : Limiting σ ω)
    (service : Service σ ι ε)
    (state : Guarded σ ι) : Turn ω → Guarded σ ι × Option (Passage ε)
  | .request request =>
      let (next, passage) :=
        enforcement.drive limiting.toChecking service state request
      (next, some passage)
  | .between event =>
      ({ state with limiter := limiting.between state.limiter event }, none)

/-- Turns one after the other, with the passages of the requests among them. -/
def run
    (enforcement : Enforcement)
    (limiting : Limiting σ ω)
    (service : Service σ ι ε)
    (state : Guarded σ ι) :
    List (Turn ω) → Guarded σ ι × List (Passage ε)
  | [] => (state, [])
  | turn :: turns =>
      let (next, passage) := enforcement.step limiting service state turn
      let (final, passages) := enforcement.run limiting service next turns
      (final, passage.toList ++ passages)

/-- Whether a turn comes through to the layer: a request does not if it finds the
service unready. -/
def comesThrough (service : Service σ ι ε) (inner : ι) : Turn ω → Bool
  | .request _ => (service.unready? inner).isNone
  | .between _ => true

/-- The turns of a run that come through to the layer. -/
def heard
    (enforcement : Enforcement)
    (limiting : Limiting σ ω)
    (service : Service σ ι ε)
    (state : Guarded σ ι) : List (Turn ω) → List (Turn ω)
  | [] => []
  | turn :: turns =>
      let next := (enforcement.step limiting service state turn).1
      let later := enforcement.heard limiting service next turns
      if comesThrough service state.inner turn then turn :: later else later

/-- What a turn that comes through does to the limiter. -/
def impact
    (enforcement : Enforcement)
    (limiting : Limiting σ ω)
    (limiter : σ) : Turn ω → σ
  | .request request =>
      if enforcement.isExempt request.path then limiter
      else (limiting.consume limiter (enforcement.resolver.resolve request)).1
  | .between event => limiting.between limiter event

section Run

variable
  (enforcement : Enforcement)
  (limiting : Limiting σ ω)
  (service : Service σ ι ε)

theorem run_cons
    (state : Guarded σ ι)
    (turn : Turn ω)
    (turns : List (Turn ω)) :
    enforcement.run limiting service state (turn :: turns) =
      ((enforcement.run limiting service
          (enforcement.step limiting service state turn).1 turns).1,
        (enforcement.step limiting service state turn).2.toList ++
          (enforcement.run limiting service
            (enforcement.step limiting service state turn).1 turns).2) := rfl

/-! ## Notes change nothing -/

theorem call_noting (observed : Observed σ ι) (request : Request) :
    let noted := enforcement.call limiting.noting.toChecking service.noting
      observed request
    enforcement.call limiting.toChecking service observed.plain request =
      (noted.1.plain, noted.2) := by
  cases exempt : enforcement.isExempt request.path with
  | true =>
      simp only [call, exempt, if_true]
      rfl
  | false =>
      cases allowed : (limiting.consume observed.limiter.state
          (enforcement.resolver.resolve request)).2.isAllowed <;>
        simp [call, exempt, allowed, Limiting.noting, Service.noting,
          Guarded.plain]

theorem step_noting (observed : Observed σ ι) (turn : Turn ω) :
    let noted := enforcement.step limiting.noting service.noting observed turn
    enforcement.step limiting service observed.plain turn =
      (noted.1.plain, noted.2) := by
  cases turn with
  | between event => rfl
  | request request =>
      have called :=
        enforcement.call_noting limiting service observed request
      cases readiness : service.unready? observed.inner.state with
      | some error =>
          simp [step, drive, Service.noting, Guarded.plain, readiness]
      | none =>
          simp only [step, drive, Service.noting, Guarded.plain, readiness]
          simp only [Guarded.plain, Service.noting] at called
          rw [called]

/-- A run comes to the same whether or not notes are taken. -/
theorem run_noting (observed : Observed σ ι) (turns : List (Turn ω)) :
    let noted := enforcement.run limiting.noting service.noting observed turns
    enforcement.run limiting service observed.plain turns =
      (noted.1.plain, noted.2) := by
  induction turns generalizing observed with
  | nil => rfl
  | cons turn turns inductionHypothesis =>
      rw [run_cons, run_cons, step_noting]
      simp only [inductionHypothesis]

/-- The same turns come through whether or not notes are taken. -/
theorem heard_noting (observed : Observed σ ι) (turns : List (Turn ω)) :
    enforcement.heard limiting.noting service.noting observed turns =
      enforcement.heard limiting service observed.plain turns := by
  induction turns generalizing observed with
  | nil => rfl
  | cons turn turns inductionHypothesis =>
      have through : comesThrough service.noting observed.inner turn =
          comesThrough service observed.inner.state turn := by
        cases turn <;> rfl
      rw [heard, heard, inductionHypothesis, step_noting, through]
      rfl

/-- All turns come through to a service that is always ready. -/
theorem heard_of_ready
    (ready : ∀ inner, service.unready? inner = none)
    (state : Guarded σ ι)
    (turns : List (Turn ω)) :
    enforcement.heard limiting service state turns = turns := by
  induction turns generalizing state with
  | nil => rfl
  | cons turn turns inductionHypothesis =>
      have through : comesThrough service state.inner turn = true := by
        cases turn with
        | request request => exact Option.isNone_iff_eq_none.2 (ready _)
        | between event => rfl
      rw [heard, if_pos through, inductionHypothesis]

/-! ## What a request adds to the accounts -/

section Accounts

variable {observed : Observed σ ι} {request : Request}

/-- An exempt request reaches the service once and leaves the limiter alone. -/
theorem accounts_of_exempt
    (ready : service.unready? observed.inner.state = none)
    (exempt : enforcement.isExempt request.path = true) :
    let next := (enforcement.drive limiting.noting.toChecking service.noting
      observed request).1
    next.limiter = observed.limiter ∧
      next.inner.notes = observed.inner.notes ++
        [{ limiter := observed.limiter.state, request }] ∧
      Metrics.CountsOne .exempt observed.metrics next.metrics := by
  have readyNoting : service.noting.unready? observed.inner = none := ready
  rw [drive_of_ready readyNoting, call_of_exempt exempt]
  exact ⟨rfl, rfl, Metrics.countsOne_record _ _⟩

/-- Any other request asks the limiter once, and reaches the service once if it is
allowed. -/
theorem accounts_of_checked
    (ready : service.unready? observed.inner.state = none)
    (checked : enforcement.isExempt request.path = false) :
    let key := enforcement.resolver.resolve request
    let next := (enforcement.drive limiting.noting.toChecking service.noting
      observed request).1
    ∃ decision,
      limiting.consume observed.limiter.state key =
          (next.limiter.state, decision) ∧
        next.limiter.notes = observed.limiter.notes ++
          [{ key := key, decision := decision }] ∧
        (decision.isAllowed = true →
          next.inner.notes = observed.inner.notes ++
              [{ limiter := next.limiter.state, request }] ∧
            Metrics.CountsOne .allowed observed.metrics next.metrics) ∧
        (decision.isAllowed = false →
          next.inner = observed.inner ∧
            Metrics.CountsOne .denied observed.metrics next.metrics) := by
  intro key next
  have readyNoting : service.noting.unready? observed.inner = none := ready
  have called : next = (enforcement.call limiting.noting.toChecking
      service.noting observed request).1 := by
    rw [← drive_of_ready readyNoting]
  refine ⟨(limiting.consume observed.limiter.state key).2, ?_⟩
  cases decided :
      (limiting.consume observed.limiter.state key).2.isAllowed with
  | true =>
      rw [call_of_allowed checked decided] at called
      rw [called]
      exact ⟨rfl, rfl, fun _ => ⟨rfl, Metrics.countsOne_record _ _⟩, nofun⟩
  | false =>
      rw [call_of_denied checked decided] at called
      rw [called]
      exact ⟨rfl, rfl, nofun, fun _ => ⟨rfl, Metrics.countsOne_record _ _⟩⟩

/-- A request that comes through is counted under one outcome, and makes one visit
unless that is a denial. -/
theorem exists_outcome
    (ready : service.unready? observed.inner.state = none)
    (request : Request) :
    let next := (enforcement.drive limiting.noting.toChecking service.noting
      observed request).1
    ∃ outcome,
      Metrics.CountsOne outcome observed.metrics next.metrics ∧
        next.inner.notes.length = observed.inner.notes.length +
          if outcome = .denied then 0 else 1 := by
  intro next
  cases exempt : enforcement.isExempt request.path with
  | true =>
      obtain ⟨-, visited, counted⟩ :=
        accounts_of_exempt enforcement limiting service ready exempt
      refine ⟨.exempt, counted, ?_⟩
      exact (congrArg List.length visited).trans List.length_append
  | false =>
      obtain ⟨decision, -, -, allowed, denied⟩ :=
        accounts_of_checked enforcement limiting service ready exempt
      cases decided : decision.isAllowed with
      | true =>
          obtain ⟨visited, counted⟩ := allowed decided
          refine ⟨.allowed, counted, ?_⟩
          exact (congrArg List.length visited).trans List.length_append
      | false =>
          obtain ⟨unvisited, counted⟩ := denied decided
          exact ⟨.denied, counted, congrArg (·.notes.length) unvisited⟩

end Accounts

/-- A turn counts one if it is a request that comes through, and makes as many
visits to the service as it counts as handed on. -/
theorem figures_step (observed : Observed σ ι) (turn : Turn ω) :
    let next :=
      (enforcement.step limiting.noting service.noting observed turn).1
    next.metrics.total = observed.metrics.total +
        (turn.isRequest &&
          comesThrough service observed.inner.state turn).toNat ∧
      next.inner.notes.length + observed.metrics.handedOn =
        observed.inner.notes.length + next.metrics.handedOn := by
  cases turn with
  | between event => exact ⟨rfl, rfl⟩
  | request request =>
      intro next
      change (next.metrics.total = observed.metrics.total +
        (service.unready? observed.inner.state).isNone.toNat) ∧ _
      cases readiness : service.unready? observed.inner.state with
      | some error =>
          have unready : service.noting.unready? observed.inner = some error :=
            readiness
          have same : next = observed := drive_of_unready unready
          rw [same]
          exact ⟨rfl, rfl⟩
      | none =>
          obtain ⟨outcome, counted, visits⟩ :=
            exists_outcome enforcement limiting service readiness request
          refine ⟨counted.total, ?_⟩
          have handedOn : next.metrics.handedOn = _ := counted.handedOn
          change next.inner.notes.length = _ at visits
          omega

theorem countP_isRequest_heard
    (state : Guarded σ ι)
    (turn : Turn ω)
    (turns : List (Turn ω)) :
    (enforcement.heard limiting service state (turn :: turns)).countP
        Turn.isRequest =
      (turn.isRequest && comesThrough service state.inner turn).toNat +
        (enforcement.heard limiting service
          (enforcement.step limiting service state turn).1 turns).countP
            Turn.isRequest := by
  rw [heard]
  cases comesThrough service state.inner turn with
  | true =>
      rw [if_pos rfl, List.countP_cons, Bool.and_true, Nat.add_comm]
      cases turn <;> rfl
  | false => simp

/-- A run counts the requests that come through, and makes as many visits to the
service as it counts as handed on. -/
theorem figures_run (observed : Observed σ ι) (turns : List (Turn ω)) :
    let final :=
      (enforcement.run limiting.noting service.noting observed turns).1
    final.metrics.total = observed.metrics.total +
        (enforcement.heard limiting service observed.plain turns).countP
          Turn.isRequest ∧
      final.inner.notes.length + observed.metrics.handedOn =
        observed.inner.notes.length + final.metrics.handedOn := by
  induction turns generalizing observed with
  | nil => exact ⟨rfl, rfl⟩
  | cons turn turns inductionHypothesis =>
      obtain ⟨total, visits⟩ :=
        enforcement.figures_step limiting service observed turn
      obtain ⟨totalTail, visitsTail⟩ := inductionHypothesis
        (enforcement.step limiting.noting service.noting observed turn).1
      have requests := enforcement.countP_isRequest_heard limiting service
        observed.plain turn turns
      rw [step_noting] at requests
      change List.countP _ _ =
        (turn.isRequest && comesThrough service observed.inner.state turn).toNat +
          _ at requests
      rw [run_cons, requests]
      constructor
      · rw [totalTail, total]
        exact Nat.add_assoc ..
      · dsimp only
        omega

/-! ## The limiter's part -/

theorem limiter_step (state : Guarded σ ι) (turn : Turn ω) :
    (enforcement.step limiting service state turn).1.limiter =
      if comesThrough service state.inner turn then
        enforcement.impact limiting state.limiter turn
      else state.limiter := by
  cases turn with
  | between event => rfl
  | request request =>
      change (enforcement.drive limiting.toChecking service state
        request).1.limiter =
          if (service.unready? state.inner).isNone then _ else _
      cases readiness : service.unready? state.inner with
      | some error =>
          rw [drive_of_unready readiness]
          rfl
      | none =>
          rw [drive_of_ready readiness, limiter_call]
          rfl

/-- The limiter at the end of a run is what the turns that came through made of it,
one after the other. -/
theorem limiter_run (state : Guarded σ ι) (turns : List (Turn ω)) :
    (enforcement.run limiting service state turns).1.limiter =
      (enforcement.heard limiting service state turns).foldl
        (enforcement.impact limiting) state.limiter := by
  induction turns generalizing state with
  | nil => rfl
  | cons turn turns inductionHypothesis =>
      rw [run_cons, inductionHypothesis, limiter_step, heard]
      cases comesThrough service state.inner turn <;> rfl

end Run

/-- Whatever the limiter and the service, a run with notes is the run itself, and
after it the next request adds to the notes and the figures what its kind asks
for: nothing if the service is unready; one visit and no check if its path is
exempt; else one check under the key of the client, and one visit if that is
allowed.  As many requests have then reached the service as are counted allowed
or exempt, and all figures come to the requests that found the service ready.
Another service that is ready for the same requests leaves the limiter with the
same state and the same decisions. -/
theorem every_run_accounted
    (enforcement : Enforcement)
    (limiting : Limiting σ ω)
    (service : Service σ ι ε)
    (start : Guarded σ ι)
    (turns : List (Turn ω)) :
    let noted :=
      enforcement.run limiting.noting service.noting start.observed turns
    let reached := noted.1
    let heard := enforcement.heard limiting service start turns
    enforcement.run limiting service start turns = (reached.plain, noted.2) ∧
      (∀ request,
        let key := enforcement.resolver.resolve request
        let next := (enforcement.drive limiting.noting.toChecking
          service.noting reached request).1
        let isExempt := ∃ beginning ∈ enforcement.exemptPaths,
          beginning.toList <+: request.path.toList
        ((service.unready? reached.inner.state).isSome = true →
            next = reached) ∧
          (service.unready? reached.inner.state = none → isExempt →
            next.limiter = reached.limiter ∧
              next.inner.notes = reached.inner.notes ++
                [{ limiter := reached.limiter.state, request }] ∧
              Metrics.CountsOne .exempt reached.metrics next.metrics) ∧
          (service.unready? reached.inner.state = none → ¬isExempt →
            ∃ decision,
              limiting.consume reached.limiter.state key =
                  (next.limiter.state, decision) ∧
                next.limiter.notes = reached.limiter.notes ++
                  [{ key := key, decision := decision }] ∧
                (decision.isAllowed = true →
                  next.inner.notes = reached.inner.notes ++
                      [{ limiter := next.limiter.state, request }] ∧
                    Metrics.CountsOne .allowed reached.metrics
                      next.metrics) ∧
                (decision.isAllowed = false →
                  next.inner = reached.inner ∧
                    Metrics.CountsOne .denied reached.metrics
                      next.metrics))) ∧
      reached.inner.notes.length +
          (start.metrics.allowed + start.metrics.exempt) =
        reached.metrics.allowed + reached.metrics.exempt ∧
      reached.metrics.total =
        start.metrics.total + heard.countP Turn.isRequest ∧
      ∀ {κ δ : Type}
        (other : Service σ κ δ)
        (otherStart : Guarded σ κ)
        (otherTurns : List (Turn ω)),
        otherStart.limiter = start.limiter →
        enforcement.heard limiting other otherStart otherTurns = heard →
        (enforcement.run limiting.noting other.noting otherStart.observed
          otherTurns).1.limiter = reached.limiter := by
  intro noted reached heard
  obtain ⟨total, visits⟩ :=
    enforcement.figures_run limiting service start.observed turns
  refine ⟨enforcement.run_noting limiting service start.observed turns,
    ?request, ?visits, total, ?others⟩
  case request =>
    intro request key next isExempt
    have kind := enforcement.isExempt_iff request.path
    refine ⟨?unready, ?exempt, ?checked⟩
    case unready =>
      intro unready
      obtain ⟨error, unready⟩ := Option.isSome_iff_exists.1 unready
      have unreadyNoting : service.noting.unready? reached.inner = some error :=
        unready
      exact drive_of_unready unreadyNoting
    case exempt =>
      intro ready exempt
      exact accounts_of_exempt enforcement limiting service ready
        (kind.2 exempt)
    case checked =>
      intro ready checked
      exact accounts_of_checked enforcement limiting service ready
        (Bool.eq_false_iff.2 fun exempt => checked (kind.1 exempt))
  case visits => exact visits.trans (Nat.zero_add _)
  case others =>
    intro κ δ other otherStart otherTurns sameLimiter sameHeard
    have otherFinal := enforcement.limiter_run limiting.noting other.noting
      otherStart.observed otherTurns
    have final := enforcement.limiter_run limiting.noting service.noting
      start.observed turns
    have begun : otherStart.observed.limiter = start.observed.limiter := by
      rw [Guarded.observed, sameLimiter]
      rfl
    rw [heard_noting] at otherFinal final
    change _ = (enforcement.heard limiting other otherStart otherTurns).foldl
      _ _ at otherFinal
    rw [sameHeard, begun] at otherFinal
    exact otherFinal.trans final.symm

/-- A service that is ready for so many calls and knows no path. -/
def exhaustible : Service σ Nat String where
  unready? left := if left = 0 then some "exhausted" else none
  call _ left _ := (left - 1, .ok (.ofStatus 404))

/-- A service that is always ready and always fails. -/
def failing : Service σ Unit String where
  unready? _ := none
  call _ _ _ := ((), .error "failed")

/-- Four requests that come through, of which one is exempt, one denied and two are
allowed a second apart, and a fifth that finds the service exhausted.  A service
that fails each time has the limiter decide the same. -/
theorem exhausted_after_three_of_four_accounted :
    let enforcement : Enforcement :=
      { exemptPaths := ["/health"], resolver := .trusting }
    let get (target : String) : Request :=
      { method := "GET", target, headers := .empty, peer := none }
    let limiter := Limiter.start .single { nowMs := 0 }
    let start : Guarded Limiter Nat :=
      { limiter, inner := 3, metrics := .none }
    let startFailing : Guarded Limiter Unit :=
      { limiter, inner := (), metrics := .none }
    let through : List (Turn Limiter.Event) :=
      [.request (get "/health"), .request (get "/ping"),
        .request (get "/ping"), .between (.setClock 1000),
        .request (get "/ping")]
    let handle (turns : List (Turn Limiter.Event)) :=
      (enforcement.run Limiting.ofBuckets.noting exhaustible.noting
        start.observed turns).1
    let drive (observed : Observed Limiter Nat) (target : String) :=
      (enforcement.drive Limiting.ofBuckets.noting.toChecking
        exhaustible.noting observed (get target)).1
    let final := handle (through ++ [.request (get "/health")])
    drive final "/ping" = final ∧
      (drive (handle (through.take 2)) "/health/live").limiter =
        (handle (through.take 2)).limiter ∧
      (drive (handle (through.take 2)) "/ping").inner =
        (handle (through.take 2)).inner ∧
      final.metrics =
        { allowed := 2, denied := 1, exempt := 1, sweeps := none } ∧
      final.inner.notes.length +
          (start.metrics.allowed + start.metrics.exempt) =
        final.metrics.allowed + final.metrics.exempt ∧
      final.metrics.total =
        start.metrics.total + through.countP Turn.isRequest ∧
      (enforcement.run Limiting.ofBuckets.noting failing.noting
        startFailing.observed through).1.limiter = final.limiter := by
  intro enforcement get limiter start startFailing through handle drive final
  obtain ⟨-, next, visits, total, others⟩ := every_run_accounted enforcement
    Limiting.ofBuckets exhaustible start (through ++ [.request (get "/health")])
  obtain ⟨-, nextEarly, -⟩ := every_run_accounted enforcement
    Limiting.ofBuckets exhaustible start (through.take 2)
  have heard : enforcement.heard Limiting.ofBuckets exhaustible start
      (through ++ [.request (get "/health")]) = through := by decide +kernel
  have heardFailing : enforcement.heard Limiting.ofBuckets failing
      startFailing through = through := by decide +kernel
  obtain ⟨unready, -, -⟩ := next (get "/ping")
  obtain ⟨-, exempt, -⟩ := nextEarly (get "/health/live")
  obtain ⟨-, -, checked⟩ := nextEarly (get "/ping")
  obtain ⟨decision, consulted, -, -, unvisited⟩ :=
    checked (by decide +kernel) (by decide +kernel)
  obtain rfl : _ = decision := congrArg Prod.snd consulted
  rw [heard] at total others
  dsimp only [drive, final, handle]
  exact ⟨unready (by decide +kernel),
    (exempt (by decide +kernel) (by decide +kernel)).1,
    (unvisited (by decide +kernel)).1, by decide +kernel, visits, total,
    others failing startFailing through rfl heardFailing⟩

end Enforcement
end Turnstile
