import Turnstile.Saturating

/-!
# Checked arithmetic

Steps on words that give a result only where the word holds the exact one: a
difference that does not leave its word, a change of word that keeps the number,
a division by something other than zero.  Every step is the exact operation on
integers, put into a word at its end.
-/

namespace Turnstile
namespace Checked

/-- A number as an instant or a duration, if a signed word holds it. -/
def signed? (number : Int) : Option Int64 :=
  if -0x8000_0000_0000_0000 ≤ number ∧ number < 0x8000_0000_0000_0000 then
    some (Int64.ofInt number)
  else none

/-- A number as a count, if a word holds it. -/
def unsigned? (number : Int) : Option UInt64 :=
  if 0 ≤ number ∧ number < 0x1_0000_0000_0000_0000 then
    some (UInt64.ofNat number.toNat)
  else none

/-- A number as a count of tokens, if a half word holds it. -/
def half? (number : Int) : Option UInt32 :=
  if 0 ≤ number ∧ number < 0x1_0000_0000 then
    some (UInt32.ofNat number.toNat)
  else none

/-- The time from one instant to another. -/
def sub? (later earlier : Int64) : Option Int64 :=
  signed? (later.toInt - earlier.toInt)

/-- The quotient of two durations, rounded toward zero. -/
def tdiv? (dividend divisor : Int64) : Option Int64 :=
  if divisor.toInt = 0 then none
  else signed? (dividend.toInt.tdiv divisor.toInt)

/-- The quotient of two counts, rounded down. -/
def div? (dividend divisor : UInt64) : Option UInt64 :=
  if divisor.toNat = 0 then none
  else unsigned? (dividend.toNat / divisor.toNat : Nat)

/-- The quotient of two counts, rounded up. -/
def ceilDiv? (dividend divisor : UInt64) : Option UInt64 :=
  if divisor.toNat = 0 then none
  else unsigned? ((dividend.toNat + divisor.toNat - 1) / divisor.toNat : Nat)

theorem signed?_eq_some_iff {number : Int} {word : Int64} :
    signed? number = some word ↔ word.toInt = number := by
  rw [signed?]
  constructor
  · intro held
    split at held
    · next fits =>
        rw [← Option.some.inj held]
        exact Int64.toInt_ofInt_of_le fits.1 fits.2
    · cases held
  · rintro rfl
    rw [if_pos ⟨word.le_toInt, word.toInt_lt⟩, Int64.ofInt_toInt]

theorem unsigned?_eq_some_iff {number : Int} {word : UInt64} :
    unsigned? number = some word ↔ (word.toNat : Int) = number := by
  rw [unsigned?]
  constructor
  · intro held
    split at held
    · next fits =>
        have small : number.toNat < 2 ^ 64 := by omega
        rw [← Option.some.inj held, UInt64.toNat_ofNat', Nat.mod_eq_of_lt small]
        exact Int.toNat_of_nonneg fits.1
    · cases held
  · rintro rfl
    have small := word.toNat_lt
    rw [if_pos (by omega), Int.toNat_natCast, UInt64.ofNat_toNat]

/-- A duration that is not negative keeps its value as a count. -/
theorem unsigned?_toInt {duration : Int64} (forward : 0 ≤ duration.toInt) :
    unsigned? duration.toInt = some duration.toUInt64 := by
  rw [unsigned?_eq_some_iff, Saturating.toNat_toUInt64 forward]
  exact Int.toNat_of_nonneg forward

theorem half?_eq_some_iff {number : Int} {word : UInt32} :
    half? number = some word ↔ (word.toNat : Int) = number := by
  rw [half?]
  constructor
  · intro held
    split at held
    · next fits =>
        have small : number.toNat < 2 ^ 32 := by omega
        rw [← Option.some.inj held, UInt32.toNat_ofNat', Nat.mod_eq_of_lt small]
        exact Int.toNat_of_nonneg fits.1
    · cases held
  · rintro rfl
    have small := word.toNat_lt
    rw [if_pos (by omega), Int.toNat_natCast, UInt32.ofNat_toNat]

end Checked
end Turnstile
