import Mathlib.Data.List.Perm.Basic
import Turnstile.Limiter.Interleaving
import Turnstile.Proofs.Handles

/-!
# What one step of a check does

A step of a check concerns the slot of its key alone, and there are six kinds of
it: reading the clock, missing the bucket, taking a handle, deciding, giving the
handle back, and resting when all is done.  The relation `Moves` lists them as
changes of the slot and of the check, for any clock reading that the check
carries; the account of a key and its budget are both kept step by step through
it.
-/

namespace Turnstile
namespace Store

theorem get?_modify_of_ne
    (store : Store)
    (handle : Handle)
    (change : Slot → Slot)
    {key : String}
    (distinct : key ≠ handle.key) :
    (store.modify handle change).slots.get? key = store.slots.get? key := by
  rw [Store.modify]
  split
  · split
    · exact Table.get?_put_of_ne _ distinct _
    · rfl
  · rfl

end Store

namespace Interleaving
namespace Check

/-- The clock reading that a check carries to the bucket that it has yet to find
or to store. -/
def waiting? (check : Check) : Option Int64 :=
  match check.stage with
  | .timed now => some now
  | .missed now => some now
  | _ => none

/-- The handle that a check holds. -/
def handle? (check : Check) : Option Handle :=
  match check.stage with
  | .holding _ handle => some handle
  | .settled handle _ => some handle
  | _ => none

/-- Whether a check holds a handle. -/
def isHolding (check : Check) : Bool :=
  match check.stage with
  | .holding .. => true
  | .settled .. => true
  | _ => false

/-- What was decided on a check, its handle given back or not. -/
def verdict? (check : Check) : Option Decision :=
  match check.stage with
  | .settled _ decision => some decision
  | .finished decision => some decision
  | _ => none

/-- Whether a handle is one to the given slot of the check's key. -/
def Holds (check : Check) (slot? : Option Slot) (handle : Handle) : Prop :=
  ∃ slot, slot? = some slot ∧
    handle = { key := check.key, birth := slot.birth }

/-- Whether the handle that a check may hold is one to the given slot of its
key. -/
def IsBound (check : Check) (slot? : Option Slot) : Prop :=
  ∀ handle, check.handle? = some handle → check.Holds slot? handle

/-- Whether the handle that a check may hold is one to its key. -/
def IsKeyed (check : Check) : Prop :=
  ∀ handle, check.handle? = some handle → handle.key = check.key

theorem IsBound.isKeyed
    {check : Check}
    {slot? : Option Slot}
    (bound : check.IsBound slot?) : check.IsKeyed := by
  intro handle held
  obtain ⟨slot, -, rfl⟩ := bound handle held
  rfl

/-- A held handle refers to the slot that the check asks for. -/
theorem Holds.refers
    {store : Store}
    {check : Check}
    {handle : Handle}
    (holds : check.Holds (store.slots.get? check.key) handle) :
    ∃ slot, store.slots.get? check.key = some slot ∧
      handle = { key := check.key, birth := slot.birth } ∧
      store.Refers handle slot := by
  obtain ⟨slot, stored, rfl⟩ := holds
  exact ⟨slot, stored, rfl, stored, rfl⟩

theorem isHolding_eq_isSome (check : Check) :
    check.isHolding = check.handle?.isSome := by
  obtain ⟨key, stage⟩ := check
  cases stage <;> rfl

/-- Where no slot is stored, no check holds a handle. -/
theorem countP_isHolding_of_none
    {checks : List Check}
    (bound : ∀ check ∈ checks, check.IsBound none) :
    checks.countP Check.isHolding = 0 := by
  rw [List.countP_eq_zero]
  intro check member holding
  rw [isHolding_eq_isSome, Option.isSome_iff_exists] at holding
  obtain ⟨handle, held⟩ := holding
  obtain ⟨slot, stored, -⟩ := bound check member handle held
  cases stored

/-- A check that waits holds no handle, and nothing has been decided on it. -/
theorem unheld_of_waiting?
    {check : Check}
    {reading : Int64}
    (waits : check.waiting? = some reading) :
    check.isHolding = false ∧ check.verdict? = none := by
  obtain ⟨key, stage⟩ := check
  cases stage with
  | timed now => exact ⟨rfl, rfl⟩
  | missed now => exact ⟨rfl, rfl⟩
  | arrived => cases waits
  | holding now handle => cases waits
  | settled handle decision => cases waits
  | finished decision => cases waits

end Check

/-- What a step at the given clock reading makes of the slot of a key and of a
check of it. -/
inductive Moves (policy : Policy) (now : Int64) :
    Option Slot → Check → Option Slot → Check → Prop
  | read (key : String) (slot? : Option Slot) :
      Moves policy now
        slot? { key, stage := .arrived }
        slot? { key, stage := .timed now }
  | miss (key : String) (reading : Int64) :
      Moves policy now
        none { key, stage := .timed reading }
        none { key, stage := .missed reading }
  | acquire
      {slot? : Option Slot}
      {check : Check}
      {reading : Int64}
      {birth : Nat}
      {slot : Slot}
      (waits : check.waiting? = some reading)
      (found : slot?.getD
        { birth, bucket := .full policy.capacity reading, handles := 0 } = slot) :
      Moves policy now
        slot? check
        (some { slot with handles := slot.handles + 1 })
        { key := check.key
          stage := .holding reading { key := check.key, birth := slot.birth } }
  | settle (key : String) (reading : Int64) (slot : Slot) :
      Moves policy now
        (some slot)
        { key, stage := .holding reading { key, birth := slot.birth } }
        (some { slot with bucket := (slot.bucket.take policy reading).1 })
        { key
          stage := .settled { key, birth := slot.birth }
            (slot.bucket.take policy reading).2 }
  | release (key : String) (slot : Slot) (decision : Decision) :
      Moves policy now
        (some slot)
        { key, stage := .settled { key, birth := slot.birth } decision }
        (some { slot with handles := slot.handles - 1 })
        { key, stage := .finished decision }
  | rest (key : String) (slot? : Option Slot) (decision : Decision) :
      Moves policy now
        slot? { key, stage := .finished decision }
        slot? { key, stage := .finished decision }

/-- The number of handles that are out to a slot. -/
def outstanding (slot? : Option Slot) : Nat :=
  slot?.elim 0 Slot.handles

namespace Moves

variable
  {policy : Policy}
  {now : Int64}
  {slot? next? : Option Slot}
  {check next : Check}

/-- No step of a check removes a slot or makes another of it. -/
theorem birth_eq
    (moves : Moves policy now slot? check next? next)
    {slot : Slot}
    (stored : slot? = some slot) :
    ∃ after, next? = some after ∧ after.birth = slot.birth := by
  cases moves with
  | read key slot? => exact ⟨slot, stored, rfl⟩
  | miss key reading => cases stored
  | acquire waits found =>
      rw [stored, Option.getD_some] at found
      exact ⟨_, rfl, by rw [found]⟩
  | settle key reading before =>
      exact ⟨_, rfl, by rw [← Option.some.inj stored]⟩
  | release key before decision =>
      exact ⟨_, rfl, by rw [← Option.some.inj stored]⟩
  | rest key slot? decision => exact ⟨slot, stored, rfl⟩

/-- After a step of one of them, checks hold handles to the slot of their key
only, if they did before. -/
theorem isBound
    {others : List Check}
    (moves : Moves policy now slot? check next? next)
    (bound : ∀ other ∈ check :: others, other.IsBound slot?) :
    ∀ other ∈ next :: others, other.IsBound next? := by
  obtain ⟨own, rest⟩ := List.forall_mem_cons.1 bound
  refine List.forall_mem_cons.2 ⟨?_, ?_⟩
  · cases moves with
    | read key slot? => exact fun handle held => nomatch held
    | miss key reading => exact fun handle held => nomatch held
    | acquire waits found =>
        intro handle held
        exact ⟨_, rfl, (Option.some.inj held).symm⟩
    | settle key reading slot =>
        intro handle held
        exact ⟨_, rfl, (Option.some.inj held).symm⟩
    | release key slot decision => exact fun handle held => nomatch held
    | rest key slot? decision => exact own
  · intro other member handle held
    obtain ⟨slot, stored, rfl⟩ := rest other member handle held
    obtain ⟨after, storedAfter, birth⟩ := moves.birth_eq stored
    exact ⟨after, storedAfter, by rw [birth]⟩

/-- A slot counts the handles to it through every step. -/
theorem counted
    {others : List Check}
    (moves : Moves policy now slot? check next? next)
    (counted : outstanding slot? = (check :: others).countP Check.isHolding) :
    outstanding next? = (next :: others).countP Check.isHolding := by
  rw [List.countP_cons] at counted ⊢
  cases moves with
  | read key slot? => exact counted
  | miss key reading => exact counted
  | @acquire slot? check reading birth slot waits found =>
      have before : outstanding slot? = slot.handles := by
        rw [← found]
        cases slot? <;> rfl
      rw [(Check.unheld_of_waiting? waits).1, before] at counted
      exact congrArg Nat.succ counted
  | settle key reading slot => exact counted
  | release key slot decision => exact congrArg Nat.pred counted
  | rest key slot? decision => exact counted

end Moves

section Advance

variable (policy : Policy) (clock : Clock)

theorem key_advance (store : Store) (check : Check) :
    (check.advance policy clock store).2.key = check.key := by
  obtain ⟨key, stage⟩ := check
  cases stage with
  | timed reading =>
      rw [Check.advance]
      dsimp only
      split <;> rfl
  | arrived => rfl
  | missed reading => rfl
  | holding reading handle => rfl
  | settled handle decision => rfl
  | finished decision => rfl

/-- A check that waits takes a handle to the slot of its key, or to a new full
one. -/
theorem moves_acquire
    (store : Store)
    (check : Check)
    {reading : Int64}
    (waits : check.waiting? = some reading) :
    Moves policy clock.nowMs (store.slots.get? check.key) check
      ((store.acquire check.key
        (.full policy.capacity reading)).store.slots.get? check.key)
      { key := check.key
        stage := .holding reading
          (store.acquire check.key (.full policy.capacity reading)).handle } := by
  rw [Store.slots_acquire, Store.handle_acquire, Table.get?_put_self]
  exact .acquire waits rfl

variable {store : Store} {check : Check}

/-- A step of a check is one of the six kinds, if the handle it holds is one to
the slot of its key. -/
theorem moves_advance
    (bound : check.IsBound (store.slots.get? check.key)) :
    Moves policy clock.nowMs (store.slots.get? check.key) check
      ((check.advance policy clock store).1.slots.get? check.key)
      (check.advance policy clock store).2 := by
  obtain ⟨key, stage⟩ := check
  cases stage with
  | arrived => exact .read key _
  | timed reading =>
      cases seen : store.acquire? key with
      | none =>
          have absent : store.slots.get? key = none :=
            Option.map_eq_none_iff.1 seen
          simp only [Check.advance, seen, absent]
          exact .miss key reading
      | some found =>
          have taken := moves_acquire policy clock store
            { key, stage := .timed reading } rfl
          rw [Store.acquire_of_acquire? seen] at taken
          simp only [Check.advance, seen]
          exact taken
  | missed reading => exact moves_acquire policy clock store _ rfl
  | holding reading handle =>
      obtain ⟨slot, stored, same, refers⟩ := (bound handle rfl).refers
      dsimp only at same stored refers ⊢
      subst same
      rw [Check.advance]
      dsimp only
      rw [refers.settle, stored]
      dsimp only
      rw [Table.get?_put_self]
      exact .settle key reading slot
  | settled handle decision =>
      obtain ⟨slot, stored, same, refers⟩ := (bound handle rfl).refers
      dsimp only at same stored refers ⊢
      subst same
      rw [Check.advance]
      dsimp only
      rw [refers.slots_release, stored, Table.get?_put_self]
      exact .release key slot decision
  | finished decision => exact .rest key _ decision

/-- A check takes handles to its own key only. -/
theorem isKeyed_advance
    (store : Store)
    (keyed : check.IsKeyed) :
    (check.advance policy clock store).2.IsKeyed := by
  obtain ⟨key, stage⟩ := check
  cases stage with
  | arrived => exact fun handle held => nomatch held
  | timed reading =>
      cases seen : store.acquire? key with
      | none =>
          simp only [Check.advance, seen]
          exact fun handle held => nomatch held
      | some found =>
          have named := congrArg Handle.key
            (store.handle_acquire key (.full policy.capacity reading))
          rw [Store.acquire_of_acquire? seen] at named
          simp only [Check.advance, seen]
          intro handle held
          rw [← Option.some.inj held]
          exact named
  | missed reading =>
      intro handle held
      rw [← Option.some.inj held, Store.handle_acquire]
      rfl
  | holding reading own => exact keyed
  | settled own decision => exact fun handle held => nomatch held
  | finished decision => exact keyed

/-- A step of a check leaves the slots of other keys alone, if the handle it holds
is one to its own key. -/
theorem get?_advance_of_ne
    (keyed : check.IsKeyed)
    {key : String}
    (distinct : key ≠ check.key) :
    (check.advance policy clock store).1.slots.get? key =
      store.slots.get? key := by
  obtain ⟨own, stage⟩ := check
  have acquired (initial : Bucket) :
      (store.acquire own initial).store.slots.get? key =
        store.slots.get? key := by
    rw [Store.slots_acquire, Table.get?_put_of_ne _ distinct]
  cases stage with
  | arrived => rfl
  | timed reading =>
      cases seen : store.acquire? own with
      | none => simp only [Check.advance, seen]
      | some found =>
          have frame := acquired (.full policy.capacity reading)
          rw [Store.acquire_of_acquire? seen] at frame
          simp only [Check.advance, seen]
          exact frame
  | missed reading => exact acquired _
  | holding reading handle =>
      rw [← keyed handle rfl] at distinct
      exact store.get?_modify_of_ne handle _ distinct
  | settled handle decision =>
      rw [← keyed handle rfl] at distinct
      exact store.get?_modify_of_ne handle _ distinct
  | finished decision => rfl

end Advance

/-! ## A step of a check among others -/

namespace World

theorem act_advance
    {world : World}
    {index : Nat}
    {check : Check}
    (found : world.checks[index]? = some check) :
    world.act (.advance index) =
      { world with
        store := (check.advance world.policy world.clock world.store).1
        checks := world.checks.set index
          (check.advance world.policy world.clock world.store).2 } := by
  simp only [act, found]

/-- Replacing a check by another of its key replaces it among the checks of that
key and leaves those of the other keys as they are. -/
theorem filter_set_perm
    {checks : List Check}
    {index : Nat}
    {check next : Check}
    (found : checks[index]? = some check)
    (same : next.key = check.key)
    (key : String) :
    if check.key = key then
      ∃ others, (checks.filter (·.key = key)).Perm (check :: others) ∧
        (next :: others).Perm ((checks.set index next).filter (·.key = key))
    else
      (checks.filter (·.key = key)).Perm
        ((checks.set index next).filter (·.key = key)) := by
  obtain ⟨inside, rfl⟩ := List.getElem?_eq_some_iff.1 found
  have before := (List.getElem_cons_eraseIdx_perm inside).filter (·.key = key)
  have after := (List.set_perm_cons_eraseIdx inside next).filter (·.key = key)
  split
  · next keyed =>
      rw [List.filter_cons_of_pos (by simpa using keyed)] at before
      rw [List.filter_cons_of_pos (by simpa [same] using keyed)] at after
      exact ⟨_, before.symm, after.symm⟩
  · next keyed =>
      have other : ¬next.key = key := fun equal => keyed (same.symm.trans equal)
      rw [List.filter_cons_of_neg (by simpa using keyed)] at before
      rw [List.filter_cons_of_neg (by simpa using other)] at after
      exact before.symm.trans after.symm

/-- When a check takes its next step, the slot of its key and the check move, and
everything that concerns another key stays as it is. -/
theorem act_advance_cases
    {world : World}
    {index : Nat}
    {check : Check}
    (found : world.checks[index]? = some check)
    (keyed : check.IsKeyed)
    (key : String)
    (bound : check.key = key → check.IsBound (world.store.slots.get? key)) :
    let next := world.act (.advance index)
    (check.key = key ∧ ∃ moved others,
      (world.checks.filter (·.key = key)).Perm (check :: others) ∧
        Moves world.policy world.clock.nowMs (world.store.slots.get? key) check
          (next.store.slots.get? key) moved ∧
        (moved :: others).Perm (next.checks.filter (·.key = key))) ∨
      (check.key ≠ key ∧
        next.store.slots.get? key = world.store.slots.get? key ∧
        (world.checks.filter (·.key = key)).Perm
          (next.checks.filter (·.key = key))) := by
  rw [act_advance found]
  have split := filter_set_perm found
    (key_advance world.policy world.clock world.store check) key
  by_cases same : check.key = key
  · rw [if_pos same] at split
    obtain ⟨others, before, after⟩ := split
    subst same
    exact Or.inl ⟨rfl, _, others, before,
      moves_advance world.policy world.clock (bound rfl), after⟩
  · rw [if_neg same] at split
    exact Or.inr ⟨same,
      get?_advance_of_ne world.policy world.clock keyed (Ne.symm same), split⟩

end World
end Interleaving
end Turnstile
