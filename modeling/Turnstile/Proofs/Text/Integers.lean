import Turnstile.Text.Numeral

/-!
# Integers as they are written

An unsigned decimal integer is written as one or more digits, perhaps after a plus sign;
leading zeros are allowed.  It is read as the value of its digits if that is below the
bound of its type.
-/

namespace Turnstile
namespace Text

/-- The number that a text of decimal digits, perhaps after a plus sign, stands for. -/
def IsIntegerText (text : List Char) (value : Nat) : Prop :=
  ∃ digits, (text = digits ∨ text = '+' :: digits) ∧ digits ≠ [] ∧
    (∀ char ∈ digits, char.isDigit = true) ∧ value = Nat.ofDigitChars 10 digits 0

theorem digit?_ten (char : Char) :
    digit? 10 char =
      if char.isDigit then some (char.toNat - '0'.toNat) else none := by
  have between : char.isDigit = true ↔ 48 ≤ char.toNat ∧ char.toNat ≤ 57 := by
    rw [Char.isDigit, Bool.and_eq_true, decide_eq_true_iff, decide_eq_true_iff]
    exact Iff.rfl
  have zero : '0'.toNat = 48 := rfl
  have nine : '9'.toNat = 57 := rfl
  have letters : ('a'.toNat = 97 ∧ 'f'.toNat = 102) ∧ 'A'.toNat = 65 ∧ 'F'.toNat = 70 :=
    ⟨⟨rfl, rfl⟩, rfl, rfl⟩
  simp only [digit?, between, zero, nine, letters]
  split
  · next digit => rw [Option.filter_some, if_pos (by simp; omega)]
  · split
    · rw [Option.filter_some, if_neg (by simp)]
    · split
      · rw [Option.filter_some, if_neg (by simp)]
      · rfl

theorem readFrom_ten_eq_some_iff {value number : Nat} {text : List Char} :
    readFrom 10 value text = some number ↔
      (∀ char ∈ text, char.isDigit = true) ∧
        number = Nat.ofDigitChars 10 text value := by
  induction text generalizing value with
  | nil =>
      rw [readFrom, Nat.ofDigitChars_nil, Option.some.injEq, eq_comm]
      exact (and_iff_right (List.forall_mem_nil _)).symm
  | cons char rest inductionHypothesis =>
      rw [readFrom, digit?_ten, Nat.ofDigitChars_cons, List.forall_mem_cons,
        Nat.mul_comm 10 value]
      by_cases digit : char.isDigit = true
      · rw [if_pos digit, Option.bind_some, inductionHypothesis]
        simp only [digit, true_and]
      · rw [if_neg digit, Option.bind_none]
        simp only [digit, false_and, reduceCtorEq]

theorem readNumeral?_ten_eq_some_iff {text : List Char} {number : Nat} :
    readNumeral? 10 text = some number ↔
      text ≠ [] ∧ (∀ char ∈ text, char.isDigit = true) ∧
        number = Nat.ofDigitChars 10 text 0 := by
  rw [readNumeral?_eq_some_iff, readFrom_ten_eq_some_iff]

/-- The integers below a bound that texts stand for. -/
theorem readInteger_eq_ok_iff_isIntegerText
    {bound : Nat}
    (positive : 0 < bound)
    {text : List Char}
    {value : Nat} :
    readInteger bound text = .ok value ↔ value < bound ∧ IsIntegerText text value := by
  rw [readInteger_eq_ok_iff positive, IsIntegerText]
  refine and_congr_right fun _ => ?_
  simp only [readNumeral?_ten_eq_some_iff]
  constructor
  · rintro (unsigned | ⟨digits, signed, read⟩)
    · exact ⟨text, .inl rfl, unsigned⟩
    · exact ⟨digits, .inr signed, read⟩
  · rintro ⟨digits, rfl | signed, read⟩
    · exact .inl read
    · exact .inr ⟨digits, signed, read⟩

end Text
end Turnstile
