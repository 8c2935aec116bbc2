import Turnstile.Proofs.Interleaving.Account

/-!
# Schedules at one instant

A schedule acts on all keys at once, but each action concerns the account of one
key: a step of a check that of its key, a visit of a sweep that of the key
visited.  Here every action under a clock that stands still is shown to leave the
accounts of all keys in order, and so does a whole schedule of them.
-/

namespace Turnstile
namespace Interleaving

/-! ## One visit of a sweep -/

/-- A visit that only removes slots that nobody holds and that are replenished
leaves the account in order. -/
theorem Account.visit
    {policy : Policy}
    {now : Int64}
    {slot? : Option Slot}
    {checks : List Check}
    {budget : Nat}
    (account : Account policy now slot? checks budget)
    {keep : Slot → Bool}
    (removable : ∀ slot, keep slot = false →
      slot.handles = 0 ∧ slot.bucket.isReplenished policy now = true) :
    Account policy now (slot?.filter keep) checks budget := by
  cases slot? with
  | none => exact account
  | some slot =>
      cases kept : keep slot with
      | true =>
          rw [Option.filter_some_pos kept]
          exact account
      | false =>
          obtain ⟨unheld, replenished⟩ := removable slot kept
          rw [Option.filter_some_neg kept]
          obtain ⟨-, bounded, reaches⟩ := account.sound slot rfl
          apply account.evict unheld
          exact (Bucket.isReplenished_iff_available policy reaches bounded).1
            replenished

/-! ## One action -/

/-- Whether an action leaves the clock alone. -/
def Action.IsStill : Action → Prop
  | .setClock _ => False
  | _ => True

instance Action.decidableIsStill (action : Action) : Decidable action.IsStill :=
  match action with
  | .setClock _ => .isFalse id
  | .advance _ => .isTrue trivial
  | .readClock _ => .isTrue trivial
  | .inspect _ _ => .isTrue trivial

namespace World

/-- Every key has its account in order, and every sweep that has begun read the
present clock. -/
structure Consistent (budget : String → Nat) (world : World) : Prop where
  accounts : ∀ key, Account world.policy world.clock.nowMs
    (world.store.slots.get? key)
    (world.checks.filter (·.key = key)) (budget key)
  swept : ∀ sweep ∈ world.sweeps, ∀ reading,
    sweep.clockReading = some reading → reading = world.clock.nowMs

theorem Consistent.advance
    {budget : String → Nat}
    {world : World}
    (consistent : world.Consistent budget)
    (index : Nat) : (world.act (.advance index)).Consistent budget := by
  cases found : world.checks[index]? with
  | none =>
      simp only [act, found]
      exact consistent
  | some check =>
      have member : check ∈ world.checks.filter (·.key = check.key) :=
        List.mem_filter.2 ⟨List.mem_of_getElem? found, decide_eq_true rfl⟩
      have bound := ((consistent.accounts check.key).fits check member).isBound
      have cases (key : String) := act_advance_cases found bound.isKeyed key
        fun same => by rw [← same]; exact bound
      rw [act_advance found] at cases ⊢
      refine ⟨?_, consistent.swept⟩
      intro key
      have account := consistent.accounts key
      obtain ⟨-, moved, others, before, moves, after⟩ | ⟨-, frame, same⟩ :=
        cases key
      · exact ((account.perm before).move moves).perm after
      · rw [← frame] at account
        exact account.perm same

/-- Every action under a still clock keeps the accounts in order. -/
theorem Consistent.act
    {budget : String → Nat}
    {world : World}
    (consistent : world.Consistent budget)
    {action : Action}
    (still : action.IsStill) : (world.act action).Consistent budget := by
  cases action with
  | advance index => exact consistent.advance index
  | readClock index =>
      refine ⟨consistent.accounts, ?_⟩
      intro sweep member reading known
      obtain present | rfl := List.mem_or_eq_of_mem_set member
      · exact consistent.swept sweep present reading known
      · exact (Option.some.inj known).symm
  | inspect index visited =>
      rw [World.act]
      split
      · next now found =>
          have present : now = world.clock.nowMs :=
            consistent.swept _ (List.mem_of_getElem? found) now rfl
          subst present
          refine ⟨?_, consistent.swept⟩
          intro key
          dsimp only
          rw [Store.get?_inspect]
          apply (consistent.accounts key).visit
          intro slot removed
          rw [Bool.or_eq_false_iff, Slot.isKept, Bool.or_eq_false_iff] at removed
          obtain ⟨-, unheld, replenished⟩ := removed
          exact ⟨by simpa using unheld, by simpa using replenished⟩
      · exact consistent
  | setClock nowMs => exact absurd still id

theorem Consistent.run
    {budget : String → Nat}
    {world : World}
    (consistent : world.Consistent budget)
    {schedule : List Action}
    (still : ∀ action ∈ schedule, action.IsStill) :
    (world.run schedule).Consistent budget := by
  induction schedule generalizing world with
  | nil => exact consistent
  | cons action schedule inductionHypothesis =>
      obtain ⟨stillHead, stillTail⟩ := List.forall_mem_cons.1 still
      exact inductionHypothesis (consistent.act stillHead) stillTail

/-- A check keeps its key. -/
theorem map_key_act (world : World) (action : Action) :
    (world.act action).checks.map Check.key = world.checks.map Check.key := by
  cases action with
  | advance index =>
      cases found : world.checks[index]? with
      | none => simp only [act, found]
      | some check =>
          have listed : (world.checks.map Check.key)[index]? = some check.key := by
            rw [List.getElem?_map, found, Option.map_some]
          obtain ⟨inside, same⟩ := List.getElem?_eq_some_iff.1 listed
          rw [act_advance found]
          dsimp only
          rw [List.map_set, key_advance, ← same, List.set_getElem_self]
  | readClock index => rfl
  | inspect index visited =>
      rw [World.act]
      split <;> rfl
  | setClock nowMs => rfl

theorem map_key_run (world : World) (schedule : List Action) :
    (world.run schedule).checks.map Check.key = world.checks.map Check.key := by
  induction schedule generalizing world with
  | nil => rfl
  | cons action schedule inductionHypothesis =>
      rw [run_cons, inductionHypothesis, map_key_act]

end World
end Interleaving
end Turnstile
