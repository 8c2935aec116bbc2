import Turnstile.Proofs.Ceiling
import Turnstile.Proofs.Interleaving.Moves

/-!
# The budget of one key under a moving clock

When the clock moves, a check decides by the reading it has made, which may be
older than those that other checks and sweeps have made since.  What a key can
still be granted depends on the bucket that the next check to take a handle
finds: the stored one, or if none is stored a full one, as of the present or of a
reading that a check has made and still carries.

The budget of a key says that the checks allowed so far and the worth of any
bucket that may be found so do not exceed the capacity and what the window of the
key's readings earns.  Each step of a check keeps to it.  A visit of a sweep keeps
to it as well, as long as no check carries a reading from before the sweep's: what
the removed bucket had earned up to the sweep's reading made it full, and a full
bucket as of a later reading is worth no more.  With an older reading the time in
between would be credited twice.
-/

namespace Turnstile
namespace Clock

/-- Whether a clock reading lies in a window of time. -/
def Within (opening closing : Int) (reading : Int64) : Prop :=
  opening ≤ reading.toInt ∧ reading.toInt ≤ closing

instance decidableWithin (opening closing : Int) (reading : Int64) :
    Decidable (Within opening closing reading) :=
  inferInstanceAs (Decidable (_ ∧ _))

theorem Within.spans
    {origin now earlier later : Int64}
    (precedes : Precedes origin now)
    (one : Within origin.toInt now.toInt earlier)
    (other : Within origin.toInt now.toInt later) : Spans earlier later := by
  obtain ⟨-, close⟩ := precedes
  obtain ⟨oneOpened, oneClosed⟩ := one
  obtain ⟨otherOpened, otherClosed⟩ := other
  constructor <;> omega

theorem Within.extend
    {opening closing later : Int}
    {reading : Int64}
    (within : Within opening closing reading)
    (ordered : closing ≤ later) : Within opening later reading :=
  ⟨within.1, within.2.trans ordered⟩

end Clock

/-- What a policy grants at most in a window that opens with a full bucket. -/
def Policy.ceiling (policy : Policy) (opening closing : Int) : Nat :=
  policy.capacity.toNat + policy.earned (closing - opening)

namespace Bucket

/-- A full bucket as of a reading in a window is worth no more than the ceiling. -/
theorem worth_full_le_ceiling
    (policy : Policy)
    {opening : Int}
    {reading : Int64}
    (opened : opening ≤ reading.toInt)
    (closing : Int) :
    (full policy.capacity reading).worth policy closing ≤
      policy.ceiling opening closing := by
  rw [worth_full]
  exact Nat.add_le_add_left (policy.earned_mono (by omega)) _

/-- A replenished bucket that had spent a token is worth at least as much as a
full one as of the same reading or a later one. -/
theorem worth_full_le_worth
    (policy : Policy)
    {bucket : Bucket}
    {swept reading : Int64}
    {closing : Int}
    (reaches : bucket.Reaches swept)
    (spent : bucket.tokens.toNat < policy.capacity.toNat)
    (replenished : bucket.isReplenished policy swept = true)
    (ordered : swept.toInt ≤ reading.toInt)
    (closed : reading.toInt ≤ closing) :
    (full policy.capacity reading).worth policy closing ≤
      bucket.worth policy closing := by
  have refilled := refill_eq_full policy reaches spent replenished
  have kept := worth_refill_le policy reaches spent.le
    (ordered.trans closed)
  rw [refilled] at kept
  have later := worth_full_le_ceiling policy ordered closing
  exact later.trans kept

end Bucket

namespace Interleaving

/-- The clock reading that a check goes by until it has decided. -/
def Check.reading? (check : Check) : Option Int64 :=
  match check.stage with
  | .timed now => some now
  | .missed now => some now
  | .holding now _ => some now
  | _ => none

theorem Check.reading?_of_waiting?
    {check : Check}
    {reading : Int64}
    (waits : check.waiting? = some reading) : check.reading? = some reading := by
  obtain ⟨key, stage⟩ := check
  cases stage with
  | timed now => exact waits
  | missed now => exact waits
  | arrived => cases waits
  | holding now handle => cases waits
  | settled handle decision => cases waits
  | finished decision => cases waits

/-- The number of checks that have been allowed, their handles given back or
not. -/
def grantCount (checks : List Check) : Nat :=
  checks.countP fun check => check.verdict?.any Decision.isAllowed

theorem grantCount_cons (check : Check) (others : List Check) :
    grantCount (check :: others) =
      (check.verdict?.any Decision.isAllowed).toNat + grantCount others := by
  rw [grantCount, List.countP_cons, Nat.add_comm]
  cases check.verdict?.any Decision.isAllowed <;> rfl

/-- The buckets that the next check of a key to take a handle may find, as far as
the readings in a window of time go. -/
inductive Prospect
    (policy : Policy)
    (now : Int64)
    (opening closing : Int)
    (checks : List Check) : Option Slot → Bucket → Prop
  | stored (slot : Slot) :
      Prospect policy now opening closing checks (some slot) slot.bucket
  | fresh
      {reading : Int64}
      (within : Clock.Within opening closing reading)
      (made : now.toInt ≤ reading.toInt ∨
        ∃ check ∈ checks, check.waiting? = some reading) :
      Prospect policy now opening closing checks none
        (.full policy.capacity reading)

/-- Whether a bucket is within the capacity, was stamped with a reading made by
now, and has spent a token unless a check that is yet to decide holds it. -/
structure Spendable
    (policy : Policy)
    (origin now : Int64)
    (checks : List Check)
    (bucket : Bucket) : Prop where
  bounded : bucket.tokens.toNat ≤ policy.capacity.toNat
  stamped : Clock.Within origin.toInt now.toInt bucket.lastRefillMs
  spent : bucket.tokens.toNat < policy.capacity.toNat ∨
    ∃ check ∈ checks, check.isHolding = true ∧ check.verdict? = none

/-- The state of one key while the clock moves on from its origin, in a window of
time that all readings of its checks lie in. -/
structure Budgeted
    (policy : Policy)
    (origin now : Int64)
    (opening closing : Int)
    (slot? : Option Slot)
    (checks : List Check) : Prop where
  begun : Clock.Precedes origin now
  timed : ∀ check ∈ checks, ∀ reading, check.reading? = some reading →
    Clock.Within origin.toInt now.toInt reading ∧
      Clock.Within opening closing reading
  bound : ∀ check ∈ checks, check.IsBound slot?
  counted : outstanding slot? = checks.countP Check.isHolding
  kept : ∀ slot, slot? = some slot →
    Spendable policy origin now checks slot.bucket
  granted : grantCount checks ≤ policy.ceiling opening closing
  affordable : ∀ bucket, Prospect policy now opening closing checks slot? bucket →
    grantCount checks + bucket.worth policy closing ≤
      policy.ceiling opening closing

section Budgeted

variable
  {policy : Policy}
  {origin now : Int64}
  {opening closing : Int}
  {slot? next? : Option Slot}
  {slot : Slot}
  {checks others : List Check}
  {check next : Check}

theorem Prospect.mono
    {later : Int64}
    {bucket : Bucket}
    (prospect : Prospect policy later opening closing others slot? bucket)
    (ordered : now.toInt ≤ later.toInt)
    (carried : ∀ check ∈ others, ∀ reading, check.waiting? = some reading →
      now.toInt ≤ reading.toInt ∨
        ∃ check ∈ checks, check.waiting? = some reading) :
    Prospect policy now opening closing checks slot? bucket := by
  cases prospect with
  | stored slot => exact .stored slot
  | fresh within made =>
      obtain ahead | ⟨check, member, waits⟩ := made
      · exact .fresh within (Or.inl (ordered.trans ahead))
      · exact .fresh within (carried check member _ waits)

/-- The order in which checks are listed does not matter. -/
theorem Budgeted.perm
    (budgeted : Budgeted policy origin now opening closing slot? checks)
    (perm : checks.Perm others) :
    Budgeted policy origin now opening closing slot? others := by
  have same : grantCount checks = grantCount others := perm.countP_eq _
  refine ⟨budgeted.begun, ?_, ?_, ?_, ?_, ?_, ?_⟩
  · intro check member
    exact budgeted.timed check (perm.mem_iff.2 member)
  · intro check member
    exact budgeted.bound check (perm.mem_iff.2 member)
  · rw [← perm.countP_eq]
    exact budgeted.counted
  · intro slot stored
    obtain ⟨bounded, stamped, spent⟩ := budgeted.kept slot stored
    refine ⟨bounded, stamped, spent.imp_right ?_⟩
    rintro ⟨check, member, deciding⟩
    exact ⟨check, perm.mem_iff.1 member, deciding⟩
  · rw [← same]
    exact budgeted.granted
  · intro bucket prospect
    rw [← same]
    apply budgeted.affordable bucket
    apply prospect.mono (Int.le_refl _)
    intro check member reading waits
    exact Or.inr ⟨check, perm.mem_iff.2 member, waits⟩

/-- While the clock moves on, fewer buckets may be found. -/
theorem Budgeted.later
    (budgeted : Budgeted policy origin now opening closing slot? checks)
    {later : Int64}
    (begun : Clock.Precedes origin later)
    (ordered : now.toInt ≤ later.toInt) :
    Budgeted policy origin later opening closing slot? checks where
  begun := begun
  timed := by
    intro check member reading carried
    obtain ⟨made, within⟩ := budgeted.timed check member reading carried
    exact ⟨made.extend ordered, within⟩
  bound := budgeted.bound
  counted := budgeted.counted
  kept := by
    intro slot stored
    obtain ⟨bounded, stamped, spent⟩ := budgeted.kept slot stored
    exact ⟨bounded, stamped.extend ordered, spent⟩
  granted := budgeted.granted
  affordable := by
    intro bucket prospect
    apply budgeted.affordable bucket
    apply prospect.mono ordered
    intro check member reading waits
    exact Or.inr ⟨check, member, waits⟩

/-! ## A step of a check -/

/-- A check goes by the reading that it has made when it set out. -/
theorem Moves.reading?_eq
    (moves : Moves policy now slot? check next? next)
    {reading : Int64}
    (carried : next.reading? = some reading) :
    check.reading? = some reading ∨ check.stage = .arrived ∧ reading = now := by
  cases moves with
  | read key slot? => exact Or.inr ⟨rfl, (Option.some.inj carried).symm⟩
  | miss key reading => exact Or.inl carried
  | acquire waits found =>
      rw [Check.reading?_of_waiting? waits]
      exact Or.inl carried
  | settle key reading slot => cases carried
  | release key slot decision => cases carried
  | rest key slot? decision => cases carried

/-- A check that is to take a handle finds a prospective bucket, which is within
the capacity and was stamped with a reading made by now. -/
theorem Budgeted.prospect_getD
    (budgeted : Budgeted policy origin now opening closing slot?
      (check :: others))
    {reading : Int64}
    (waits : check.waiting? = some reading)
    {birth : Nat}
    (found : slot?.getD
      { birth, bucket := .full policy.capacity reading, handles := 0 } = slot) :
    Prospect policy now opening closing (check :: others) slot? slot.bucket ∧
      slot.bucket.tokens.toNat ≤ policy.capacity.toNat ∧
      Clock.Within origin.toInt now.toInt slot.bucket.lastRefillMs := by
  cases slot? with
  | none =>
      obtain ⟨made, within⟩ := budgeted.timed check List.mem_cons_self reading
        (Check.reading?_of_waiting? waits)
      subst found
      exact ⟨.fresh within (Or.inr ⟨check, List.mem_cons_self, waits⟩),
        Nat.le_refl _, made⟩
  | some stored =>
      rw [Option.getD_some] at found
      subst found
      obtain ⟨bounded, stamped, -⟩ := budgeted.kept stored rfl
      exact ⟨.stored stored, bounded, stamped⟩

/-- Whatever bucket may be found after a step, what is granted and what that
bucket is worth were granted or worth something before. -/
theorem Budgeted.prospect_move
    (budgeted : Budgeted policy origin now opening closing slot?
      (check :: others))
    (moves : Moves policy now slot? check next? next)
    {bucket : Bucket}
    (prospect :
      Prospect policy now opening closing (next :: others) next? bucket) :
    ∃ earlier,
      Prospect policy now opening closing (check :: others) slot? earlier ∧
        grantCount (next :: others) + bucket.worth policy closing ≤
          grantCount (check :: others) + earlier.worth policy closing := by
  cases moves with
  | read key slot? =>
      refine ⟨bucket, ?_, Nat.le_refl _⟩
      apply prospect.mono (Int.le_refl _)
      intro other member reading waits
      obtain rfl | present := List.mem_cons.1 member
      · rw [← Option.some.inj waits]
        exact Or.inl (Int.le_refl _)
      · exact Or.inr ⟨other, List.mem_cons_of_mem _ present, waits⟩
  | miss key reading =>
      refine ⟨bucket, ?_, Nat.le_refl _⟩
      apply prospect.mono (Int.le_refl _)
      intro other member reading waits
      obtain rfl | present := List.mem_cons.1 member
      · exact Or.inr ⟨_, List.mem_cons_self, waits⟩
      · exact Or.inr ⟨other, List.mem_cons_of_mem _ present, waits⟩
  | acquire waits found =>
      cases prospect
      refine ⟨_, (budgeted.prospect_getD waits found).1, ?_⟩
      rw [grantCount_cons, grantCount_cons,
        (Check.unheld_of_waiting? waits).2]
      exact Nat.le_refl _
  | settle key reading slot =>
      cases prospect
      refine ⟨_, .stored slot, ?_⟩
      obtain ⟨made, within⟩ :=
        budgeted.timed _ List.mem_cons_self reading rfl
      obtain ⟨bounded, stamped, -⟩ := budgeted.kept slot rfl
      have reaches : slot.bucket.Reaches reading :=
        stamped.spans budgeted.begun made
      have taken := Bucket.isAllowed_add_worth_take policy slot.bucket reading
        closing
      have refilled := Bucket.worth_refill_le policy reaches bounded within.2
      rw [grantCount_cons, grantCount_cons]
      change (slot.bucket.take policy reading).2.isAllowed.toNat + _ +
        (slot.bucket.take policy reading).1.worth policy closing ≤ 0 + _ + _
      omega
  | release key slot decision =>
      cases prospect
      exact ⟨_, .stored slot, Nat.le_refl _⟩
  | rest key slot? decision => exact ⟨bucket, prospect, Nat.le_refl _⟩

/-- A step that decides a check takes what it grants from a bucket. -/
theorem Budgeted.granted_move
    (budgeted : Budgeted policy origin now opening closing slot?
      (check :: others))
    (moves : Moves policy now slot? check next? next) :
    grantCount (next :: others) ≤ policy.ceiling opening closing := by
  have granted := budgeted.granted
  cases moves with
  | read key slot? => exact granted
  | miss key reading => exact granted
  | acquire waits found =>
      rw [grantCount_cons, (Check.unheld_of_waiting? waits).2] at granted
      rw [grantCount_cons]
      exact granted
  | settle key reading slot =>
      obtain ⟨earlier, found, spent⟩ :=
        budgeted.prospect_move (.settle key reading slot) (.stored _)
      have affordable := budgeted.affordable earlier found
      omega
  | release key slot decision => exact granted
  | rest key slot? decision => exact granted

/-- A new bucket is held by the check that stored it, and a check that decides
leaves less than the capacity. -/
theorem Budgeted.kept_move
    (budgeted : Budgeted policy origin now opening closing slot?
      (check :: others))
    (moves : Moves policy now slot? check next? next)
    (stored : next? = some slot) :
    Spendable policy origin now (next :: others) slot.bucket := by
  -- A check that holds a handle and has not decided still does so, unless it is
  -- the one that moves.
  have witness :
      (∃ other ∈ check :: others,
        other.isHolding = true ∧ other.verdict? = none) →
      ¬(check.isHolding = true ∧ check.verdict? = none) →
      ∃ other ∈ next :: others,
        other.isHolding = true ∧ other.verdict? = none := by
    rintro ⟨other, member, deciding⟩ idle
    obtain rfl | present := List.mem_cons.1 member
    · exact absurd deciding idle
    · exact ⟨other, List.mem_cons_of_mem _ present, deciding⟩
  cases moves with
  | read key slot? =>
      obtain ⟨bounded, stamped, spent⟩ := budgeted.kept slot stored
      exact ⟨bounded, stamped,
        spent.imp_right (witness · fun idle => nomatch idle.1)⟩
  | miss key reading => cases stored
  | acquire waits found =>
      rw [← Option.some.inj stored]
      obtain ⟨-, bounded, stamped⟩ := budgeted.prospect_getD waits found
      exact ⟨bounded, stamped, Or.inr ⟨_, List.mem_cons_self, rfl, rfl⟩⟩
  | settle key reading earlier =>
      rw [← Option.some.inj stored]
      obtain ⟨bounded, stamped, -⟩ := budgeted.kept earlier rfl
      have spent := Bucket.toNat_tokens_take_lt policy bounded reading
      refine ⟨spent.le, ?_, Or.inl spent⟩
      obtain same | same :=
        Bucket.lastRefillMs_take_or_eq policy earlier.bucket reading
      · rw [same]
        exact (budgeted.timed _ List.mem_cons_self reading rfl).1
      · rw [same]
        exact stamped
  | release key earlier decision =>
      rw [← Option.some.inj stored]
      obtain ⟨bounded, stamped, spent⟩ := budgeted.kept earlier rfl
      exact ⟨bounded, stamped,
        spent.imp_right (witness · fun idle => nomatch idle.2)⟩
  | rest key slot? decision => exact budgeted.kept slot stored

/-- Every step of a check keeps to the budget of its key, if a check that reads
the clock reads it within the window. -/
theorem Budgeted.move
    (budgeted : Budgeted policy origin now opening closing slot?
      (check :: others))
    (moves : Moves policy now slot? check next? next)
    (reads : check.stage = .arrived → Clock.Within opening closing now) :
    Budgeted policy origin now opening closing next? (next :: others) where
  begun := budgeted.begun
  timed := by
    obtain ⟨own, rest⟩ := List.forall_mem_cons.1 budgeted.timed
    refine List.forall_mem_cons.2 ⟨?_, rest⟩
    intro reading carried
    obtain earlier | ⟨arrived, rfl⟩ := moves.reading?_eq carried
    · exact own reading earlier
    · exact ⟨⟨budgeted.begun.1, Int.le_refl _⟩, reads arrived⟩
  bound := moves.isBound budgeted.bound
  counted := moves.counted budgeted.counted
  kept := fun _ stored => budgeted.kept_move moves stored
  granted := budgeted.granted_move moves
  affordable := by
    intro bucket prospect
    obtain ⟨earlier, found, spent⟩ := budgeted.prospect_move moves prospect
    exact spent.trans (budgeted.affordable earlier found)

/-! ## A visit of a sweep -/

/-- A sweep may remove a replenished bucket that nobody holds if no check carries
a reading from before the sweep's. -/
theorem Budgeted.evict
    (budgeted : Budgeted policy origin now opening closing (some slot) checks)
    {swept : Int64}
    (made : Clock.Within origin.toInt now.toInt swept)
    (unheld : slot.handles = 0)
    (replenished : slot.bucket.isReplenished policy swept = true)
    (current : ∀ check ∈ checks, ∀ reading, check.waiting? = some reading →
      swept.toInt ≤ reading.toInt) :
    Budgeted policy origin now opening closing none checks := by
  have free : ∀ check ∈ checks, ¬check.isHolding = true := by
    have counted := budgeted.counted
    change slot.handles = _ at counted
    rw [unheld] at counted
    exact List.countP_eq_zero.1 counted.symm
  obtain ⟨bounded, stamped, spent⟩ := budgeted.kept slot rfl
  have below : slot.bucket.tokens.toNat < policy.capacity.toNat := by
    obtain below | ⟨check, member, holding, -⟩ := spent
    · exact below
    · exact absurd holding (free check member)
  refine ⟨budgeted.begun, budgeted.timed, ?_, ?_, ?_, budgeted.granted, ?_⟩
  · intro check member handle held
    have free := free check member
    rw [Check.isHolding_eq_isSome, held] at free
    exact absurd rfl free
  · exact (List.countP_eq_zero.2 free).symm
  · exact fun _ stored => nomatch stored
  · intro bucket prospect
    cases prospect with
    | @fresh reading within carried =>
        have ordered : swept.toInt ≤ reading.toInt := by
          obtain ahead | ⟨check, member, waits⟩ := carried
          · exact made.2.trans ahead
          · exact current check member reading waits
        have reaches : slot.bucket.Reaches swept :=
          stamped.spans budgeted.begun made
        have worth := Bucket.worth_full_le_worth policy reaches below replenished
          ordered within.2
        have affordable := budgeted.affordable _ (.stored slot)
        omega

/-- A visit that only removes a slot that nobody holds and whose bucket is
replenished keeps to the budget, unless it removes it while a check carries a
reading from before the sweep's. -/
theorem Budgeted.visit
    (budgeted : Budgeted policy origin now opening closing slot? checks)
    {swept : Int64}
    (made : Clock.Within origin.toInt now.toInt swept)
    {keep : Slot → Bool}
    (removable : ∀ slot, keep slot = false →
      slot.handles = 0 ∧ slot.bucket.isReplenished policy swept = true)
    (current : ∀ slot, slot? = some slot → keep slot = false →
      ∀ check ∈ checks, ∀ reading, check.waiting? = some reading →
        swept.toInt ≤ reading.toInt) :
    Budgeted policy origin now opening closing (slot?.filter keep) checks := by
  cases slot? with
  | none => exact budgeted
  | some slot =>
      cases kept : keep slot with
      | true =>
          rw [Option.filter_some_pos kept]
          exact budgeted
      | false =>
          obtain ⟨unheld, replenished⟩ := removable slot kept
          rw [Option.filter_some_neg kept]
          exact budgeted.evict made unheld replenished (current slot rfl kept)

/-! ## Before the first step -/

/-- Checks that are about to begin have their budget before them, as long as
their key is not stored. -/
theorem budgeted_of_arrived
    (policy : Policy)
    (now : Int64)
    (opening closing : Int)
    (arrived : ∀ check ∈ checks, check.stage = .arrived) :
    Budgeted policy now now opening closing none checks := by
  have idle : ∀ check ∈ checks, ∃ key, check = Check.arrive key := by
    rintro ⟨key, stage⟩ member
    exact ⟨key, congrArg (Check.mk key) (arrived _ member)⟩
  have ungranted : grantCount checks = 0 := by
    rw [grantCount, List.countP_eq_zero]
    intro check member
    obtain ⟨key, rfl⟩ := idle check member
    exact Bool.false_ne_true
  refine ⟨Clock.Precedes.refl now, ?_, ?_, ?_, ?_, ?_, ?_⟩
  · intro check member reading carried
    obtain ⟨key, rfl⟩ := idle check member
    cases carried
  · intro check member handle held
    obtain ⟨key, rfl⟩ := idle check member
    cases held
  · rw [eq_comm, outstanding, Option.elim_none, List.countP_eq_zero]
    intro check member
    obtain ⟨key, rfl⟩ := idle check member
    exact Bool.false_ne_true
  · exact fun _ stored => nomatch stored
  · rw [ungranted]
    exact Nat.zero_le _
  · intro bucket prospect
    cases prospect with
    | fresh within carried =>
        rw [ungranted, Nat.zero_add]
        exact Bucket.worth_full_le_ceiling policy within.1 closing

end Budgeted

end Interleaving
end Turnstile
