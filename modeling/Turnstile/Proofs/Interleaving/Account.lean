import Mathlib.Data.List.Perm.Basic
import Turnstile.Proofs.Interleaving.Moves
import Turnstile.Proofs.Refill

/-!
# The account of one key

While the clock stands still, the checks of one key share a budget: the tokens
that a check would find at the start.  The account of a key says, at any point
of an interleaving, how far each of its checks has come and what that asks of the
slot of the key; that the slot counts the handles that are out; and that the
tokens still to be found and the tokens granted make up the budget.

Every step of a check and every visit of a sweep leaves the account in order.
Steps of a check before it is decided, and giving a handle back, leave the tokens
as they are; a decision moves one token from those to be found to those granted;
a visit removes a slot only if nobody holds it and nothing has been granted from
it, and the next check then finds the capacity again.
-/

namespace Turnstile
namespace Interleaving

/-- The tokens that the next check of a slot would find, a missing slot counting
as full. -/
def left (policy : Policy) (now : Int64) (slot? : Option Slot) : Nat :=
  match slot? with
  | some slot => slot.bucket.available policy now
  | none => policy.capacity.toNat

/-- The numbers of remaining tokens that the allowed ones of some decisions
report. -/
def remainders (decisions : List Decision) : List Nat :=
  (decisions.filter Decision.isAllowed).map fun decision =>
    decision.remaining.toNat

/-- Whether a slot is as a decision left it: not full, and empty after a
refusal. -/
def HasDecided
    (policy : Policy)
    (now : Int64)
    (slot? : Option Slot)
    (decision : Decision) : Prop :=
  ∃ slot, slot? = some slot ∧
    slot.bucket.available policy now < policy.capacity.toNat ∧
    (decision.isAllowed = false → slot.bucket.available policy now = 0)

/-- The remaining tokens reported by the decisions made so far that allowed. -/
def grants (checks : List Check) : List Nat :=
  remainders (checks.filterMap Check.verdict?)

/-- What the stage of a check asks of the slot of its key. -/
def Check.Fits
    (policy : Policy)
    (now : Int64)
    (slot? : Option Slot)
    (check : Check) : Prop :=
  match check.stage with
  | .arrived => True
  | .timed reading => reading = now
  | .missed reading => reading = now
  | .holding reading handle => reading = now ∧ check.Holds slot? handle
  | .settled handle decision =>
      check.Holds slot? handle ∧ HasDecided policy now slot? decision
  | .finished decision => HasDecided policy now slot? decision

/-- A handle that a check holds is one to the slot of its key. -/
theorem Check.Fits.isBound
    {policy : Policy}
    {now : Int64}
    {slot? : Option Slot}
    {check : Check}
    (fits : check.Fits policy now slot?) : check.IsBound slot? := by
  intro handle held
  obtain ⟨key, stage⟩ := check
  cases stage with
  | holding reading own =>
      rw [← Option.some.inj held]
      exact fits.2
  | settled own decision =>
      rw [← Option.some.inj held]
      exact fits.1
  | arrived => cases held
  | timed reading => cases held
  | missed reading => cases held
  | finished decision => cases held

/-- A check that waits has read the present clock. -/
theorem Check.Fits.reading_eq
    {policy : Policy}
    {now reading : Int64}
    {slot? : Option Slot}
    {check : Check}
    (fits : check.Fits policy now slot?)
    (waits : check.waiting? = some reading) : reading = now := by
  obtain ⟨key, stage⟩ := check
  cases stage with
  | timed own => exact (Option.some.inj waits).symm.trans fits
  | missed own => exact (Option.some.inj waits).symm.trans fits
  | arrived => cases waits
  | holding own handle => cases waits
  | settled handle decision => cases waits
  | finished decision => cases waits

/-- Whether a budget has come to some tokens still to be found and to grants that
report, in some order, the numbers below the budget from the top down. -/
structure Shares (budget found : Nat) (granted : List Nat) : Prop where
  balanced : found + granted.length = budget
  descending : granted.Perm
    ((List.range granted.length).map fun taken => budget - 1 - taken)

/-- One more grant reports the next number below the earlier ones. -/
theorem Shares.grant
    {budget found : Nat}
    {granted : List Nat}
    (shares : Shares budget found granted)
    (positive : 0 < found) :
    Shares budget (found - 1) ((found - 1) :: granted) := by
  obtain ⟨balanced, descending⟩ := shares
  have next : budget - 1 - granted.length = found - 1 := by omega
  constructor
  · rw [List.length_cons]
    omega
  · rw [List.length_cons, List.range_succ, List.map_append, List.map_singleton,
      next]
    exact (descending.cons _).trans (List.perm_append_singleton _ _).symm

theorem Shares.perm
    {budget found : Nat}
    {granted others : List Nat}
    (shares : Shares budget found granted)
    (perm : granted.Perm others) : Shares budget found others := by
  obtain ⟨balanced, descending⟩ := shares
  rw [perm.length_eq] at balanced descending
  exact ⟨balanced, perm.symm.trans descending⟩

/-- Whether a slot counts the handles that its checks hold, and its bucket is
within the capacity and the reach of the clock. -/
structure Sound
    (policy : Policy)
    (now : Int64)
    (checks : List Check)
    (slot : Slot) : Prop where
  counted : slot.handles = checks.countP Check.isHolding
  bounded : slot.bucket.tokens.toNat ≤ policy.capacity.toNat
  reaches : slot.bucket.Reaches now

/-- The state of one key while its checks run. -/
structure Account
    (policy : Policy)
    (now : Int64)
    (slot? : Option Slot)
    (checks : List Check)
    (budget : Nat) : Prop where
  fits : ∀ check ∈ checks, check.Fits policy now slot?
  sound : ∀ slot, slot? = some slot → Sound policy now checks slot
  shared : Shares budget (left policy now slot?) (grants checks)

/-- Whether one slot comes after another in the life of a bucket at one
instant. -/
def Evolves
    (policy : Policy)
    (now : Int64)
    (slot? next? : Option Slot) : Prop :=
  ∀ slot, slot? = some slot → ∃ next, next? = some next ∧
    next.birth = slot.birth ∧
    next.bucket.available policy now ≤ slot.bucket.available policy now

section Evolves

variable {policy : Policy} {now : Int64} {slot? next? : Option Slot}

theorem Evolves.holds
    (evolves : Evolves policy now slot? next?)
    {check : Check}
    {handle : Handle}
    (holds : check.Holds slot? handle) : check.Holds next? handle := by
  obtain ⟨slot, stored, rfl⟩ := holds
  obtain ⟨next, storedNext, birth, -⟩ := evolves slot stored
  exact ⟨next, storedNext, by rw [birth]⟩

theorem Evolves.hasDecided
    (evolves : Evolves policy now slot? next?)
    {decision : Decision}
    (decided : HasDecided policy now slot? decision) :
    HasDecided policy now next? decision := by
  obtain ⟨slot, stored, spent, refused⟩ := decided
  obtain ⟨next, storedNext, -, fewer⟩ := evolves slot stored
  refine ⟨next, storedNext, fewer.trans_lt spent, ?_⟩
  intro denied
  have empty := refused denied
  omega

/-- What a check asks of a slot stays true while the slot evolves. -/
theorem Evolves.fits
    (evolves : Evolves policy now slot? next?)
    {check : Check}
    (fits : check.Fits policy now slot?) : check.Fits policy now next? := by
  obtain ⟨key, stage⟩ := check
  cases stage with
  | arrived => trivial
  | timed reading => exact fits
  | missed reading => exact fits
  | holding reading handle => exact ⟨fits.1, evolves.holds fits.2⟩
  | settled handle decision =>
      exact ⟨evolves.holds fits.1, evolves.hasDecided fits.2⟩
  | finished decision => exact evolves.hasDecided fits

end Evolves

section Account

variable
  {policy : Policy}
  {now : Int64}
  {slot? : Option Slot}
  {slot : Slot}
  {checks others : List Check}
  {budget : Nat}

/-- The order in which checks are listed does not matter. -/
theorem Account.perm
    (account : Account policy now slot? checks budget)
    (perm : checks.Perm others) :
    Account policy now slot? others budget := by
  have same : (grants checks).Perm (grants others) :=
    ((perm.filterMap Check.verdict?).filter Decision.isAllowed).map _
  refine ⟨?_, ?_, account.shared.perm same⟩
  · intro check member
    exact account.fits check (perm.mem_iff.2 member)
  · intro slot stored
    obtain ⟨counted, bounded, reaches⟩ := account.sound slot stored
    rw [perm.countP_eq] at counted
    exact ⟨counted, bounded, reaches⟩

theorem grants_cons_congr
    {check next : Check}
    (verdict : next.verdict? = check.verdict?)
    (others : List Check) : grants (next :: others) = grants (check :: others) := by
  rw [grants, grants, List.filterMap_cons, List.filterMap_cons, verdict]

theorem grants_cons_of_undecided
    {check : Check}
    (undecided : check.verdict? = none)
    (others : List Check) : grants (check :: others) = grants others := by
  rw [grants, List.filterMap_cons_none undecided, grants]

theorem grants_cons_of_refused
    {check : Check}
    {decision : Decision}
    (verdict : check.verdict? = some decision)
    (refused : decision.isAllowed = false)
    (others : List Check) : grants (check :: others) = grants others := by
  rw [grants, List.filterMap_cons_some verdict, remainders,
    List.filter_cons_of_neg (by rw [refused]; exact Bool.false_ne_true)]
  rfl

theorem grants_cons_of_allowed
    {check : Check}
    {decision : Decision}
    (verdict : check.verdict? = some decision)
    (allowed : decision.isAllowed = true)
    (others : List Check) :
    grants (check :: others) = decision.remaining.toNat :: grants others := by
  rw [grants, List.filterMap_cons_some verdict, remainders,
    List.filter_cons_of_pos allowed]
  rfl

theorem countP_isHolding_cons_congr
    {check next : Check}
    (holding : next.isHolding = check.isHolding)
    (others : List Check) :
    (next :: others).countP Check.isHolding =
      (check :: others).countP Check.isHolding := by
  rw [List.countP_cons, List.countP_cons, holding]

/-- What the other checks ask stays true while the slot evolves. -/
theorem Account.fits_cons
    {check next : Check}
    {next? : Option Slot}
    (account : Account policy now slot? (check :: others) budget)
    (evolves : Evolves policy now slot? next?)
    (fits : next.Fits policy now next?) :
    ∀ other ∈ next :: others, other.Fits policy now next? := by
  intro other member
  obtain rfl | present := List.mem_cons.1 member
  · exact fits
  · exact evolves.fits (account.fits other (List.mem_cons_of_mem _ present))

/-- A step that leaves the slot alone, takes no handle and decides nothing. -/
theorem Account.pass
    {check next : Check}
    (account : Account policy now slot? (check :: others) budget)
    (fits : next.Fits policy now slot?)
    (holding : next.isHolding = check.isHolding)
    (verdict : next.verdict? = check.verdict?) :
    Account policy now slot? (next :: others) budget where
  fits := by
    apply account.fits_cons ?_ fits
    intro slot stored
    exact ⟨slot, stored, rfl, Nat.le_refl _⟩
  sound := by
    intro slot stored
    obtain ⟨counted, bounded, reaches⟩ := account.sound slot stored
    rw [← countP_isHolding_cons_congr holding] at counted
    exact ⟨counted, bounded, reaches⟩
  shared := by
    rw [grants_cons_congr verdict]
    exact account.shared

/-- A check takes a handle to the slot of its key, or to a new full one. -/
theorem Account.acquire
    {check : Check}
    (account : Account policy now slot? (check :: others) budget)
    (unheld : check.isHolding = false)
    (undecided : check.verdict? = none)
    {birth : Nat}
    (found : slot?.getD
      { birth, bucket := .full policy.capacity now, handles := 0 } = slot) :
    Account policy now (some { slot with handles := slot.handles + 1 })
      ({ key := check.key
         stage := .holding now { key := check.key, birth := slot.birth } } ::
        others) budget := by
  let next : Check :=
    { key := check.key
      stage := .holding now { key := check.key, birth := slot.birth } }
  have evolves : Evolves policy now slot?
      (some { slot with handles := slot.handles + 1 }) := by
    intro stored present
    rw [present, Option.getD_some] at found
    subst found
    exact ⟨_, rfl, rfl, Nat.le_refl _⟩
  have fits : next.Fits policy now
      (some { slot with handles := slot.handles + 1 }) := ⟨rfl, _, rfl, rfl⟩
  have verdict : next.verdict? = check.verdict? := undecided.symm
  have before : Sound policy now (check :: others) slot ∧
      slot.bucket.available policy now = left policy now slot? := by
    cases slot? with
    | none =>
        have counted := Check.countP_isHolding_of_none
          fun check member => (account.fits check member).isBound
        subst found
        exact ⟨⟨counted.symm, Nat.le_refl _, Bucket.reaches_self rfl⟩,
          Bucket.available_full policy now⟩
    | some stored =>
        rw [Option.getD_some] at found
        subst found
        exact ⟨account.sound _ rfl, rfl⟩
  obtain ⟨⟨counted, bounded, reaches⟩, same⟩ := before
  refine ⟨account.fits_cons evolves fits, ?_, ?_⟩
  · intro stored present
    rw [← Option.some.inj present]
    have unchanged := List.countP_cons_of_neg (p := Check.isHolding)
      (a := check) (l := others) (by rw [unheld]; exact Bool.false_ne_true)
    rw [unchanged] at counted
    refine ⟨?_, bounded, reaches⟩
    rw [List.countP_cons_of_pos rfl, counted]
  · have shared := account.shared
    rw [← grants_cons_congr verdict, ← same] at shared
    exact shared

/-- A decision moves one token from those to be found to those granted, or finds
none. -/
theorem Account.settle
    {key : String}
    {reading : Int64}
    {handle : Handle}
    (account : Account policy now (some slot)
      ({ key, stage := .holding reading handle } :: others) budget) :
    Account policy now
      (some { slot with bucket := (slot.bucket.take policy now).1 })
      ({ key
         stage := .settled handle (slot.bucket.take policy now).2 } :: others)
      budget := by
  obtain ⟨counted, bounded, reaches⟩ := account.sound slot rfl
  have most := Bucket.available_le policy bounded now
  have leaves := Bucket.available_take policy reaches
  have decided : HasDecided policy now
      (some { slot with bucket := (slot.bucket.take policy now).1 })
      (slot.bucket.take policy now).2 := by
    have positive := policy.capacity_pos
    refine ⟨_, rfl, ?_, ?_⟩
    · change (slot.bucket.take policy now).1.available policy now < _
      omega
    · intro refused
      rw [Bucket.isAllowed_take, decide_eq_false_iff_not] at refused
      change (slot.bucket.take policy now).1.available policy now = 0
      omega
  have evolves : Evolves policy now (some slot)
      (some { slot with bucket := (slot.bucket.take policy now).1 }) := by
    intro stored present
    rw [← Option.some.inj present]
    refine ⟨_, rfl, rfl, ?_⟩
    change (slot.bucket.take policy now).1.available policy now ≤ _
    omega
  have holds := evolves.holds (account.fits _ List.mem_cons_self).2
  refine ⟨account.fits_cons evolves ⟨holds, decided⟩, ?_, ?_⟩
  · intro stored present
    rw [← Option.some.inj present]
    exact ⟨counted, (Bucket.toNat_tokens_take_lt policy bounded now).le,
      Bucket.reaches_take policy reaches⟩
  · have shared := account.shared
    rw [grants_cons_of_undecided rfl] at shared
    have decides := Bucket.isAllowed_take policy slot.bucket now
    by_cases found : 0 < slot.bucket.available policy now
    · have reports : (slot.bucket.take policy now).2.remaining.toNat =
          slot.bucket.available policy now - 1 := by
        rw [Bucket.remaining_take, Bucket.toNat_tokens_take]
      rw [decide_eq_true found] at decides
      rw [left, leaves, grants_cons_of_allowed rfl decides, reports]
      exact shared.grant found
    · have empty : slot.bucket.available policy now - 1 =
          slot.bucket.available policy now := by omega
      rw [decide_eq_false found] at decides
      rw [left, leaves, grants_cons_of_refused rfl decides, empty]
      exact shared

/-- A check gives its handle back. -/
theorem Account.release
    {key : String}
    {handle : Handle}
    {decision : Decision}
    (account : Account policy now (some slot)
      ({ key, stage := .settled handle decision } :: others) budget) :
    Account policy now (some { slot with handles := slot.handles - 1 })
      ({ key, stage := .finished decision } :: others) budget := by
  have evolves : Evolves policy now (some slot)
      (some { slot with handles := slot.handles - 1 }) := by
    intro stored present
    rw [← Option.some.inj present]
    exact ⟨_, rfl, rfl, Nat.le_refl _⟩
  have decided := evolves.hasDecided (account.fits _ List.mem_cons_self).2
  obtain ⟨counted, bounded, reaches⟩ := account.sound slot rfl
  rw [List.countP_cons_of_pos rfl] at counted
  refine ⟨account.fits_cons evolves decided, ?_, account.shared⟩
  intro stored present
  rw [← Option.some.inj present, counted]
  exact ⟨(List.countP_cons_of_neg Bool.false_ne_true).symm, bounded, reaches⟩

/-- Every step of a check leaves the account of its key in order. -/
theorem Account.move
    {next? : Option Slot}
    {check next : Check}
    (account : Account policy now slot? (check :: others) budget)
    (moves : Moves policy now slot? check next? next) :
    Account policy now next? (next :: others) budget := by
  have fits := account.fits check List.mem_cons_self
  cases moves with
  | read key slot? => exact account.pass rfl rfl rfl
  | miss key reading => exact account.pass fits rfl rfl
  | acquire waits found =>
      have present := fits.reading_eq waits
      subst present
      obtain ⟨unheld, undecided⟩ := Check.unheld_of_waiting? waits
      exact account.acquire unheld undecided found
  | settle key reading slot =>
      have present : reading = now := fits.1
      subst present
      exact account.settle
  | release key slot decision => exact account.release
  | rest key slot? decision => exact account

/-- A visit of a sweep may remove a slot that nobody holds and that a check would
find full. -/
theorem Account.evict
    (account : Account policy now (some slot) checks budget)
    (unheld : slot.handles = 0)
    (full : slot.bucket.available policy now = policy.capacity.toNat) :
    Account policy now none checks budget := by
  have counted := (account.sound slot rfl).counted
  rw [unheld] at counted
  have unasked : ∀ decision, ¬HasDecided policy now (some slot) decision := by
    rintro decision ⟨stored, present, spent, -⟩
    rw [← Option.some.inj present, full] at spent
    exact Nat.lt_irrefl _ spent
  have shared := account.shared
  rw [left, full] at shared
  refine ⟨?_, ?_, shared⟩
  · intro check member
    have fits := account.fits check member
    have free := List.countP_eq_zero.1 counted.symm check member
    obtain ⟨key, stage⟩ := check
    cases stage with
    | arrived => trivial
    | timed reading => exact fits
    | missed reading => exact fits
    | holding reading handle => exact absurd rfl free
    | settled handle decision => exact absurd rfl free
    | finished decision => exact absurd fits (unasked decision)
  · intro stored present
    cases present

end Account

end Interleaving
end Turnstile
