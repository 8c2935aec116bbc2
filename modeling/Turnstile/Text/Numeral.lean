/-!
# Numerals

Positional numerals in bases up to sixteen, read and written most significant
digit first.  Written digits are lower-case and carry no leading zero.
-/

namespace Turnstile
namespace Text

/-- The character of a digit below sixteen. -/
def digitChar (digit : Nat) : Char :=
  if digit < 10 then Char.ofNat ('0'.toNat + digit)
  else Char.ofNat ('a'.toNat + (digit - 10))

/-- The digit that a character stands for in a base; letters count in either
case. -/
def digit? (base : Nat) (char : Char) : Option Nat :=
  let code := char.toNat
  let digit :=
    if '0'.toNat ≤ code ∧ code ≤ '9'.toNat then some (code - '0'.toNat)
    else if 'a'.toNat ≤ code ∧ code ≤ 'f'.toNat then
      some (code - 'a'.toNat + 10)
    else if 'A'.toNat ≤ code ∧ code ≤ 'F'.toNat then
      some (code - 'A'.toNat + 10)
    else none
  digit.filter (· < base)

/-- The numeral of a number, without leading zeros. -/
def numeral (base number : Nat) : List Char :=
  if number < base ∨ base < 2 then [digitChar number]
  else numeral base (number / base) ++ [digitChar (number % base)]
termination_by number
decreasing_by
  have : 0 < number := by omega
  exact Nat.div_lt_self this (by omega)

/-- The decimal numeral of a number. -/
def decimal (number : Nat) : List Char :=
  numeral 10 number

/-- The decimal numeral of a number as a string. -/
def decimalText (number : Nat) : String :=
  String.ofList (decimal number)

/-- Reads on from a value already read; every character has to be a digit. -/
def readFrom (base : Nat) : Nat → List Char → Option Nat
  | value, [] => some value
  | value, char :: rest =>
      (digit? base char).bind fun digit => readFrom base (value * base + digit) rest

/-- The number that a non-empty run of digits stands for. -/
def readNumeral? (base : Nat) (text : List Char) : Option Nat :=
  if text.isEmpty then none else readFrom base 0 text

/-- Why a text is not an unsigned decimal integer of a given size. -/
inductive IntegerError where
  | empty
  | invalidDigit
  | tooLarge
deriving DecidableEq, Repr

namespace IntegerError

/-- The text reported for a rejected integer. -/
def message : IntegerError → String
  | empty => "cannot parse integer from empty string"
  | invalidDigit => "invalid digit found in string"
  | tooLarge => "number too large to fit in target type"

end IntegerError

/-- Reads digits on from a value, keeping it below a bound.  The first character
that is no digit, or that makes the value too large, decides the error. -/
def readBounded (bound : Nat) : Nat → List Char → Except IntegerError Nat
  | value, [] => .ok value
  | value, char :: rest =>
      match digit? 10 char with
      | none => .error .invalidDigit
      | some digit =>
          if value * 10 + digit < bound then
            readBounded bound (value * 10 + digit) rest
          else .error .tooLarge

/-- The decimal integer below a bound that a text stands for.  One plus sign may
come first; leading zeros are allowed. -/
def readInteger (bound : Nat) : List Char → Except IntegerError Nat
  | [] => .error .empty
  | ['+'] => .error .invalidDigit
  | '+' :: digits => readBounded bound 0 digits
  | text => readBounded bound 0 text

theorem digit?_digitChar_ten :
    ∀ digit < 10, digit? 10 (digitChar digit) = some digit := by
  decide

theorem digit?_digitChar_sixteen :
    ∀ digit < 16, digit? 16 (digitChar digit) = some digit := by
  decide

theorem readFrom_append
    (base value : Nat)
    (first second : List Char) :
    readFrom base value (first ++ second) =
      (readFrom base value first).bind fun read => readFrom base read second := by
  induction first generalizing value with
  | nil => rfl
  | cons char rest inductionHypothesis =>
      simp only [List.cons_append, readFrom]
      cases digit? base char with
      | none => rfl
      | some digit => simpa using inductionHypothesis (value * base + digit)

theorem numeral_ne_nil (base number : Nat) : numeral base number ≠ [] := by
  rw [numeral]
  split <;> simp

theorem readFrom_numeral
    {base : Nat}
    (large : 2 ≤ base)
    (digits : ∀ digit < base, digit? base (digitChar digit) = some digit)
    (number : Nat) :
    readFrom base 0 (numeral base number) = some number := by
  induction number using Nat.strongRecOn with
  | ind number inductionHypothesis =>
      rw [numeral]
      split
      · next small =>
          have below : number < base := by omega
          simp [readFrom, digits number below]
      · next big =>
          have smaller : number / base < number :=
            Nat.div_lt_self (by omega) (by omega)
          rw [readFrom_append, inductionHypothesis _ smaller]
          have digit := digits (number % base) (Nat.mod_lt _ (by omega))
          simp [readFrom, digit, Nat.div_add_mod']

/-- A numeral reads back as the number it was written from. -/
theorem readNumeral?_numeral
    {base : Nat}
    (large : 2 ≤ base)
    (digits : ∀ digit < base, digit? base (digitChar digit) = some digit)
    (number : Nat) :
    readNumeral? base (numeral base number) = some number := by
  rw [readNumeral?, if_neg (by simp [numeral_ne_nil])]
  exact readFrom_numeral large digits number

/-- A decimal numeral reads back as the number it was written from. -/
theorem readNumeral?_decimal (number : Nat) :
    readNumeral? 10 (decimal number) = some number :=
  readNumeral?_numeral (by decide) digit?_digitChar_ten number

theorem readNumeral?_eq_some_iff
    {base : Nat}
    {text : List Char}
    {number : Nat} :
    readNumeral? base text = some number ↔
      text ≠ [] ∧ readFrom base 0 text = some number := by
  cases text <;> simp [readNumeral?]

/-- A digit of one base is a digit of every larger one. -/
theorem digit?_of_le
    {base larger digit : Nat}
    (smaller : base ≤ larger)
    {char : Char}
    (read : digit? base char = some digit) : digit? larger char = some digit := by
  obtain ⟨found, below⟩ := Option.filter_eq_some_iff.1 read
  refine Option.filter_eq_some_iff.2 ⟨found, ?_⟩
  exact decide_eq_true (Nat.lt_of_lt_of_le (of_decide_eq_true below) smaller)

/-- What is read as a number holds digits only. -/
theorem forall_digit_of_readFrom
    {base value number : Nat}
    {text : List Char}
    (read : readFrom base value text = some number) :
    ∀ char ∈ text, (digit? base char).isSome = true := by
  induction text generalizing value with
  | nil => simp
  | cons first rest inductionHypothesis =>
      rw [readFrom, Option.bind_eq_some_iff] at read
      obtain ⟨digit, known, read⟩ := read
      intro char member
      obtain rfl | later := List.mem_cons.1 member
      · rw [known]
        rfl
      · exact inductionHypothesis read char later

theorem forall_digit_of_readNumeral?
    {base number : Nat}
    {text : List Char}
    (read : readNumeral? base text = some number) :
    ∀ char ∈ text, (digit? base char).isSome = true :=
  forall_digit_of_readFrom (readNumeral?_eq_some_iff.1 read).2

theorem isSome_digit?_of_mem_numeral
    {base : Nat}
    (large : 2 ≤ base)
    (digits : ∀ digit < base, digit? base (digitChar digit) = some digit)
    {number : Nat}
    {char : Char}
    (member : char ∈ numeral base number) : (digit? base char).isSome = true :=
  forall_digit_of_readNumeral? (readNumeral?_numeral large digits number) char member

theorem isSome_digit?_of_mem_decimal
    {number : Nat}
    {char : Char}
    (member : char ∈ decimal number) : (digit? 10 char).isSome = true :=
  isSome_digit?_of_mem_numeral (by decide) digit?_digitChar_ten member

/-- Reading on does not make a value smaller. -/
theorem le_of_readFrom
    {base value number : Nat}
    (positive : 0 < base)
    {text : List Char}
    (read : readFrom base value text = some number) : value ≤ number := by
  induction text generalizing value with
  | nil => exact Nat.le_of_eq (Option.some.inj read)
  | cons char rest inductionHypothesis =>
      rw [readFrom, Option.bind_eq_some_iff] at read
      obtain ⟨digit, -, read⟩ := read
      calc
        value ≤ value * base := Nat.le_mul_of_pos_right value positive
        _ ≤ value * base + digit := Nat.le_add_right ..
        _ ≤ number := inductionHypothesis read

/-- Keeping a number below a bound digit by digit is keeping it below the bound. -/
theorem readBounded_eq_ok_iff
    {bound value : Nat}
    (below : value < bound)
    {text : List Char}
    {number : Nat} :
    readBounded bound value text = .ok number ↔
      readFrom 10 value text = some number ∧ number < bound := by
  induction text generalizing value with
  | nil =>
      rw [readBounded, readFrom, Except.ok.injEq, Option.some.injEq]
      constructor
      · rintro rfl
        exact ⟨rfl, below⟩
      · exact And.left
  | cons char rest inductionHypothesis =>
      rw [readBounded, readFrom]
      cases digit? 10 char with
      | none => simp
      | some digit =>
          dsimp only [Option.bind_some]
          split
          · next fits => exact inductionHypothesis fits
          · next large =>
              refine ⟨nofun, ?_⟩
              rintro ⟨read, fits⟩
              have grown := le_of_readFrom (by decide) read
              omega

/-- The integers below a bound are the numerals of such numbers, with a plus sign
or without. -/
theorem readInteger_eq_ok_iff
    {bound : Nat}
    (positive : 0 < bound)
    {text : List Char}
    {number : Nat} :
    readInteger bound text = .ok number ↔
      number < bound ∧
        (readNumeral? 10 text = some number ∨
          ∃ digits, text = '+' :: digits ∧
            readNumeral? 10 digits = some number) := by
  have unsigned (digits : List Char) (nonempty : digits ≠ []) :
      readBounded bound 0 digits = .ok number ↔
        number < bound ∧ readNumeral? 10 digits = some number := by
    rw [readBounded_eq_ok_iff positive, readNumeral?_eq_some_iff, and_comm]
    exact and_congr_right fun _ => (and_iff_right nonempty).symm
  have signed (digits : List Char) : readNumeral? 10 ('+' :: digits) = none := rfl
  rw [readInteger.eq_def]
  split
  · simp [readNumeral?]
  · simp [readNumeral?_eq_some_iff, signed]
  · next digits more =>
      have nonempty : digits ≠ [] := fun empty => more (by rw [empty])
      simp [signed, unsigned digits nonempty]
  · next missing _ plain =>
      rw [unsigned text fun empty => missing empty]
      refine and_congr_right fun _ => (or_iff_left ?_).symm
      rintro ⟨digits, plus, -⟩
      exact plain digits plus

/-- The decimal numeral of a number is that integer under every bound above it. -/
theorem readInteger_decimal
    {bound : Nat}
    (positive : 0 < bound)
    {number other : Nat} :
    readInteger bound (decimal number) = .ok other ↔
      number < bound ∧ number = other := by
  have unsigned (digits : List Char) : decimal number ≠ '+' :: digits := by
    intro signed
    have read := readNumeral?_decimal number
    rw [signed] at read
    cases read
  rw [readInteger_eq_ok_iff positive, readNumeral?_decimal, Option.some.injEq]
  constructor
  · rintro ⟨below, rfl | ⟨digits, signed, -⟩⟩
    · exact ⟨below, rfl⟩
    · exact absurd signed (unsigned digits)
  · rintro ⟨below, rfl⟩
    exact ⟨below, .inl rfl⟩

theorem decimal_of_lt {number : Nat} (small : number < 10) :
    decimal number = [digitChar number] := by
  rw [decimal, numeral, if_pos (Or.inl small)]

theorem digitChar_ne_zero :
    ∀ digit < 10, digit ≠ 0 → digitChar digit ≠ '0' := by
  decide

/-- A positive number is written without a leading zero. -/
theorem head?_decimal_ne_zero {number : Nat} (positive : 0 < number) :
    (decimal number).head? ≠ some '0' := by
  induction number using Nat.strongRecOn with
  | ind number inductionHypothesis =>
      by_cases small : number < 10
      · rw [decimal_of_lt small]
        simpa using digitChar_ne_zero number small (by omega)
      · have shorter : (decimal (number / 10)).head? ≠ some '0' :=
          inductionHypothesis _ (by omega) (by omega)
        obtain ⟨first, rest, start⟩ :=
          List.exists_cons_of_ne_nil (numeral_ne_nil 10 (number / 10))
        rw [decimal, start] at shorter
        rw [decimal, numeral, if_neg (by omega), start]
        exact shorter

end Text
end Turnstile
