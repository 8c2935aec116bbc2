/-!
# Positional words

A word cut into digits of a fixed base, most significant first, and put together
again.  Network addresses are written as such digits: four of base 256, or eight
of base 65536.
-/

namespace Turnstile
namespace Net

/-- The lowest `count` digits of a number, most significant first. -/
def toDigits (base : Nat) : (count : Nat) → Nat → List Nat
  | 0, _ => []
  | count + 1, number => toDigits base count (number / base) ++ [number % base]

/-- The number that a list of digits stands for. -/
def ofDigits (base : Nat) (digits : List Nat) : Nat :=
  digits.foldl (fun value digit => value * base + digit) 0

@[simp] theorem length_toDigits (base count number : Nat) :
    (toDigits base count number).length = count := by
  induction count generalizing number with
  | zero => rfl
  | succ count inductionHypothesis => simp [toDigits, inductionHypothesis]

theorem ofDigits_append_singleton
    (base : Nat)
    (digits : List Nat)
    (digit : Nat) :
    ofDigits base (digits ++ [digit]) = ofDigits base digits * base + digit := by
  simp [ofDigits]

/-- Digits put together give back the number that was cut, if it fits. -/
theorem ofDigits_toDigits
    {base count number : Nat}
    (fits : number < Nat.pow base count) :
    ofDigits base (toDigits base count number) = number := by
  induction count generalizing number with
  | zero =>
      have zero : number = 0 := by simpa using fits
      simp [toDigits, ofDigits, zero]
  | succ count inductionHypothesis =>
      have positive : 0 < base := by
        rcases Nat.eq_zero_or_pos base with zero | positive
        · simp [zero] at fits
        · exact positive
      have smaller : number / base < Nat.pow base count := by
        apply Nat.div_lt_of_lt_mul
        rwa [Nat.pow_eq, Nat.pow_succ, Nat.mul_comm] at fits
      rw [toDigits, ofDigits_append_singleton, inductionHypothesis smaller,
        Nat.div_add_mod']

theorem lt_of_mem_toDigits
    {base : Nat}
    (positive : 0 < base)
    {count number digit : Nat}
    (member : digit ∈ toDigits base count number) : digit < base := by
  induction count generalizing number with
  | zero => simp [toDigits] at member
  | succ count inductionHypothesis =>
      rw [toDigits, List.mem_append, List.mem_singleton] at member
      rcases member with inner | last
      · exact inductionHypothesis inner
      · rw [last]
        exact Nat.mod_lt _ positive

end Net
end Turnstile
