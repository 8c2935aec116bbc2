import Turnstile.Limiter

/-!
# Interleaved checks

Checks and sweeps that run at the same time, cut into the steps that other
threads cannot come in between.  A check reads the clock, looks for the bucket of
its key, stores a full one if there is none, decides under the bucket's lock, and
gives its handle back.  A sweep reads the clock and then inspects one key at a
time.

A schedule is a list of actions; running it folds the shared state over them.
-/

namespace Turnstile
namespace Interleaving

/-- How far a check has come. -/
inductive Stage where
  | arrived
  /-- The clock has been read. -/
  | timed (now : Int64)
  /-- No bucket was found. -/
  | missed (now : Int64)
  /-- A handle has been taken. -/
  | holding (now : Int64) (handle : Handle)
  /-- The bucket has decided. -/
  | settled (handle : Handle) (decision : Decision)
  /-- The handle has been given back. -/
  | finished (decision : Decision)
deriving DecidableEq, Repr

/-- A check in progress. -/
structure Check where
  key : String
  stage : Stage
deriving DecidableEq, Repr

namespace Check

/-- A check that has not begun. -/
def arrive (key : String) : Check where
  key := key
  stage := .arrived

/-- What a finished check decided. -/
def decision? (check : Check) : Option Decision :=
  match check.stage with
  | .finished decision => some decision
  | _ => none

/-- The next step of a check, at the current clock reading. -/
def advance
    (policy : Policy)
    (clock : Clock)
    (store : Store)
    (check : Check) : Store × Check :=
  match check.stage with
  | .arrived => (store, { check with stage := .timed clock.nowMs })
  | .timed now =>
      match store.acquire? check.key with
      | some (found, handle) => (found, { check with stage := .holding now handle })
      | none => (store, { check with stage := .missed now })
  | .missed now =>
      let acquired := store.acquire check.key (.full policy.capacity now)
      (acquired.store, { check with stage := .holding now acquired.handle })
  | .holding now handle =>
      let (decided, decision) := Limiter.settle policy now store handle
      (decided, { check with stage := .settled handle decision })
  | .settled handle decision =>
      (store.release handle, { check with stage := .finished decision })
  | .finished _ => (store, check)

/-- The number of steps after which every check is finished. -/
def stepsToFinish : Nat := 5

end Check

/-- A sweep in progress, which inspects nothing before it has read the clock. -/
structure Sweep where
  clockReading : Option Int64
deriving DecidableEq, Repr

/-- The state that checks and sweeps share, and the checks and sweeps. -/
structure World where
  policy : Policy
  clock : Clock
  store : Store
  checks : List Check
  sweeps : List Sweep

/-- What can happen next. -/
inductive Action where
  /-- One check takes its next step. -/
  | advance (check : Nat)
  /-- One sweep reads the clock. -/
  | readClock (sweep : Nat)
  /-- One sweep inspects a key. -/
  | inspect (sweep : Nat) (key : String)
  /-- The clock moves. -/
  | setClock (nowMs : Int64)
deriving DecidableEq, Repr

namespace World

/-- One action. -/
def act (world : World) : Action → World
  | .advance index =>
      match world.checks[index]? with
      | some check =>
          let (store, next) := check.advance world.policy world.clock world.store
          { world with store, checks := world.checks.set index next }
      | none => world
  | .readClock index =>
      let begun : Sweep := { clockReading := some world.clock.nowMs }
      { world with sweeps := world.sweeps.set index begun }
  | .inspect index key =>
      match world.sweeps[index]? with
      | some { clockReading := some now } =>
          let evictable := Bucket.isReplenished world.policy now
          { world with store := world.store.inspect evictable key }
      | _ => world
  | .setClock nowMs => { world with clock := world.clock.set nowMs }

/-- A whole schedule. -/
def run (world : World) (schedule : List Action) : World :=
  schedule.foldl act world

/-- Checks for the given keys, all about to begin on a limiter. -/
def ofKeys (limiter : Limiter) (keys : List String) : World where
  policy := limiter.policy
  clock := limiter.clock
  store := limiter.store
  checks := keys.map Check.arrive
  sweeps := []

/-- The schedule in which all checks take their steps in turn until they are
finished. -/
def inTurn (world : World) : List Action :=
  (List.range Check.stepsToFinish).flatMap fun _ =>
    (List.range world.checks.length).map Action.advance

/-- The number of finished checks for a key that were allowed. -/
def allowedCount (world : World) (key : String) : Nat :=
  world.checks.countP fun check =>
    check.key = key && check.decision?.any Decision.isAllowed

@[simp] theorem run_nil (world : World) : world.run [] = world := rfl

@[simp] theorem run_cons
    (world : World)
    (action : Action)
    (schedule : List Action) :
    world.run (action :: schedule) = (world.act action).run schedule := rfl

end World
end Interleaving
end Turnstile
