import Mathlib.Data.List.Basic
import Mathlib.Data.List.Induction
import Turnstile.Json.Record
import Turnstile.Json.Text

/-!
# Written values

Strings, truth values and natural numbers read back as what they were written from,
and reading stops where the written text ends.
-/

namespace Turnstile
namespace Json

open Text

theorem skipSpace_cons
    {char : Char}
    (mark : isSpace char = false)
    (rest : List Char) : skipSpace (char :: rest) = char :: rest := by
  rw [skipSpace, List.dropWhile_cons_of_neg (by simp [mark])]

theorem ok_bind
    {α β : Type}
    (value : α)
    (next : α → Except Fault β) : (Except.ok value >>= next) = next value := rfl

/-! ## Strings -/

theorem escapedChar?_of_shortEscape?
    {char letter : Char}
    (short : shortEscape? char = some letter) :
    letter ≠ 'u' ∧ escapedChar? letter = some char := by
  unfold shortEscape? at short
  split at short
  all_goals first
    | cases short
      exact ⟨by decide, rfl⟩
    | cases short

theorem hasFourBytes_of_four (first second third fourth : Char) (rest : List Char) :
    hasFourBytes (first :: second :: third :: fourth :: rest) = true := by
  have one := first.utf8Size_pos
  have two := second.utf8Size_pos
  have three := third.utf8Size_pos
  have four := fourth.utf8Size_pos
  apply decide_eq_true
  simp only [List.take_succ_cons, List.take_zero, List.foldl_cons, List.foldl_nil]
  omega

/-- What a string is read as with one more character in front. -/
def withChar
    (char : Char)
    (read : Except Fault (List Char × List Char)) :
    Except Fault (List Char × List Char) :=
  read.map fun (chars, after) => (char :: chars, after)

theorem bind_eq_withChar
    (char : Char)
    (read : Except Fault (List Char × List Char)) :
    (do
      let (chars, rest) ← read
      return (char :: chars, rest)) = withChar char read := by
  cases read <;> rfl

theorem scanString_plain
    {char : Char}
    (unquoted : char ≠ '"')
    (literal : char ≠ '\\')
    (printed : ¬char.toNat < 0x20)
    (rest : List Char) :
    scanString .plain (char :: rest) = withChar char (scanString .plain rest) := by
  rw [scanString, if_neg unquoted, if_neg literal, if_neg printed, bind_eq_withChar]

theorem scanString_escape
    {letter char : Char}
    (short : letter ≠ 'u')
    (read : escapedChar? letter = some char)
    (rest : List Char) :
    scanString .plain ('\\' :: letter :: rest) =
      withChar char (scanString .plain rest) := by
  rw [scanString, if_neg (by decide), if_pos rfl, scanString, if_neg short, read]
  exact bind_eq_withChar char _

/-- Four digits of which the first two are zero stand for a character. -/
theorem scanString_unit
    {high low : Nat}
    (highFits : high < 2)
    (lowFits : low < 16)
    (rest : List Char) :
    scanString .plain
        ("\\u00".toList ++ digitChar high :: digitChar low :: rest) =
      withChar (Char.ofNat (high * 16 + low)) (scanString .plain rest) := by
  have zero : digit? 16 '0' = some 0 := by decide
  have highRead := digit?_digitChar_sixteen high (by omega)
  have lowRead := digit?_digitChar_sixteen low lowFits
  have closed : closeUnit none (high * 16 + low) =
      some (some (Char.ofNat (high * 16 + low)), .plain) := by
    rw [closeUnit, if_neg (by omega), if_neg (by omega)]
  change scanString .plain ('\\' :: 'u' :: '0' :: '0' :: digitChar high ::
    digitChar low :: rest) = _
  rw [scanString, if_neg (by decide), if_pos rfl, scanString, if_pos rfl,
    hasFourBytes_of_four, if_pos rfl]
  have code : (((0 * 16 + 0) * 16 + 0) * 16 + high) * 16 + low = high * 16 + low := by
    omega
  simp only [scanString, zero, highRead, lowRead, code, closed, Nat.reduceSub,
    Nat.reduceLT, if_true, if_false]
  exact bind_eq_withChar _ _

/-- A written character is read as the first one of a string. -/
theorem scanString_writeChar (char : Char) (rest : List Char) :
    scanString .plain (writeChar char ++ rest) =
      withChar char (scanString .plain rest) := by
  rw [writeChar]
  cases short : shortEscape? char with
  | some letter =>
      obtain ⟨plain, read⟩ := escapedChar?_of_shortEscape? short
      exact scanString_escape plain read rest
  | none =>
      dsimp only
      split
      · next control =>
          have parts : char.toNat / 16 * 16 + char.toNat % 16 = char.toNat :=
            Nat.div_add_mod' ..
          have unit := scanString_unit (show char.toNat / 16 < 2 by omega)
            (Nat.mod_lt char.toNat (by decide)) rest
          rw [parts, Char.ofNat_toNat] at unit
          rw [List.append_assoc]
          exact unit
      · next printed =>
          apply scanString_plain _ _ printed
          · rintro rfl
            cases short
          · rintro rfl
            cases short

/-- A written string is read back, up to its closing quote. -/
theorem scanString_flatMap_writeChar (text rest : List Char) :
    scanString .plain (text.flatMap writeChar ++ '"' :: rest) = .ok (text, rest) := by
  induction text with
  | nil => rfl
  | cons char text inductionHypothesis =>
      rw [List.flatMap_cons, List.append_assoc, scanString_writeChar,
        inductionHypothesis]
      rfl

theorem toList_writeString_append (text : String) (rest : List Char) :
    (writeString text).toList ++ rest =
      '"' :: (text.toList.flatMap writeChar ++ '"' :: rest) := by
  simp [writeString]

theorem readText_writeString (text : String) (rest : List Char) :
    readText ((writeString text).toList ++ rest) = .ok (text.toList, rest) := by
  rw [toList_writeString_append, readText, skipSpace_cons (by decide)]
  exact scanString_flatMap_writeChar text.toList rest

/-! ## Truth values -/

theorem readFlag_writeFlag (flag : Bool) (rest : List Char) :
    readFlag ((writeFlag flag).toList ++ rest) = .ok (flag, rest) := by
  cases flag <;> rfl

/-! ## Natural numbers -/

/-- What follows a value inside an object: a comma or the closing brace. -/
def EndsValue (rest : List Char) : Prop :=
  ∃ tail, rest = ',' :: tail ∨ rest = '}' :: tail

/-- The digits that a number is written with, the first one first. -/
structure WrittenDigits (number : Nat) (digits : List Nat) : Prop where
  text : decimal number = digits.map digitChar
  small : ∀ digit ∈ digits, digit < 10
  value : digitsValue digits = number
  lead : digits.head? = some 0 → number = 0

theorem digitsValue_append (digits : List Nat) (last : Nat) :
    digitsValue (digits ++ [last]) = digitsValue digits * 10 + last := by
  rw [digitsValue, List.foldl_append]
  rfl

theorem exists_writtenDigits (number : Nat) :
    ∃ digits, WrittenDigits number digits := by
  induction number using Nat.strongRecOn with
  | ind number inductionHypothesis =>
      by_cases single : number < 10
      · refine ⟨[number], decimal_of_lt single, by simpa using single, ?_, ?_⟩
        · simp [digitsValue]
        · exact Option.some.inj
      · obtain ⟨digits, text, small, value, lead⟩ :=
          inductionHypothesis (number / 10) (by omega)
        have nonempty : digits ≠ [] := by
          rintro rfl
          exact numeral_ne_nil 10 (number / 10) text
        refine ⟨digits ++ [number % 10], ?_, ?_, ?_, ?_⟩
        · rw [decimal, numeral, if_neg (by omega), ← decimal, text, List.map_append]
          rfl
        · intro digit member
          obtain earlier | last := List.mem_append.1 member
          · exact small digit earlier
          · rw [List.mem_singleton.1 last]
            exact Nat.mod_lt number (by decide)
        · rw [digitsValue_append, value, Nat.div_add_mod']
        · obtain ⟨first, others, rfl⟩ := List.exists_cons_of_ne_nil nonempty
          intro zero
          have small := lead zero
          omega

namespace WrittenDigits

variable {number : Nat} {digits : List Nat}

theorem ne_nil (written : WrittenDigits number digits) : digits ≠ [] := by
  rintro rfl
  exact numeral_ne_nil 10 number written.text

/-- A number that is written with a leading zero is written with nothing else. -/
theorem eq_single_of_lead
    (written : WrittenDigits number digits)
    (zero : digits.head? = some 0) : digits = [0] := by
  have text := written.text
  rw [written.lead zero, decimal_of_lt (by decide)] at text
  match digits, zero, text with
  | [_], zero, _ => rw [Option.some.inj zero]

end WrittenDigits

/-- Digits are scanned up to where a value ends. -/
theorem scanDigits_map_digitChar
    {digits : List Nat}
    (small : ∀ digit ∈ digits, digit < 10)
    {rest : List Char}
    (ended : EndsValue rest) :
    scanDigits (digits.map digitChar ++ rest) = (digits, rest) := by
  induction digits with
  | nil =>
      obtain ⟨tail, rfl | rfl⟩ := ended
      · rfl
      · rfl
  | cons digit digits inductionHypothesis =>
      rw [List.forall_mem_cons] at small
      rw [List.map_cons, List.cons_append, scanDigits,
        digit?_digitChar_ten digit small.1]
      dsimp only
      rw [inductionHypothesis small.2]

/-- The number that is written as the given digits alone. -/
def Number.ofDigits (digits : List Nat) : Number where
  negative := false
  whole := digits
  fraction := none
  exponent := none

theorem digitChar_ne_minus : ∀ digit < 10, digitChar digit ≠ '-' := by
  decide

theorem digitChar_startsNumber :
    ∀ digit < 10, isSpace (digitChar digit) = false ∧
      startsNumber (digitChar digit) = true := by
  decide

theorem scanWhole_decimal
    {number : Nat}
    {digits : List Nat}
    (written : WrittenDigits number digits)
    (atEnd : Fault)
    {rest : List Char}
    (ended : EndsValue rest) :
    scanWhole atEnd (decimal number ++ rest) = .ok (digits, rest) := by
  have scanned := scanDigits_map_digitChar written.small ended
  rw [← written.text] at scanned
  match digits, written with
  | [], written => exact absurd rfl written.ne_nil
  | [0], _ =>
      rw [scanWhole, scanSomeDigits, scanned]
      rfl
  | 0 :: _ :: _, written => cases written.eq_single_of_lead rfl
  | (_ + 1) :: _, _ =>
      rw [scanWhole, scanSomeDigits, scanned]
      rfl

/-- A numeral is scanned as a number without sign, fraction and exponent. -/
theorem scanNumber_decimal
    {number : Nat}
    {digits : List Nat}
    (written : WrittenDigits number digits)
    (atEnd : Fault)
    {rest : List Char}
    (ended : EndsValue rest) :
    scanNumber atEnd (decimal number ++ rest) = .ok (.ofDigits digits, rest) := by
  have unsigned (signed : List Char) : decimal number ++ rest ≠ '-' :: signed := by
    obtain ⟨first, others, rfl⟩ := List.exists_cons_of_ne_nil written.ne_nil
    rw [written.text]
    intro same
    exact digitChar_ne_minus first (written.small first List.mem_cons_self)
      (List.cons.inj same).1
  have bare : scanFraction atEnd rest = .ok (none, rest) ∧
      scanExponent atEnd rest = .ok (none, rest) := by
    obtain ⟨tail, rfl | rfl⟩ := ended
    · exact ⟨rfl, rfl⟩
    · exact ⟨rfl, rfl⟩
  rw [scanNumber]
  · simp only [scanWhole_decimal written atEnd ended, ok_bind, bare]
    rfl
  · exact unsigned

/-- All digits of a number below `2 ^ 64` are taken into the significand. -/
theorem takeWhole_of_lt
    {digits : List Nat}
    (fits : digitsValue digits < UInt64.size) :
    Number.takeWhole digits = (digitsValue digits, 0) := by
  induction digits using List.reverseRecOn with
  | nil => rfl
  | append_singleton digits last inductionHypothesis =>
      rw [digitsValue_append] at fits ⊢
      have before := inductionHypothesis (by omega)
      rw [Number.takeWhole] at before ⊢
      rw [List.foldl_append, before]
      exact if_pos ⟨rfl, fits⟩

/-- Rounding to 53 bits moves a number by at most one unit in the last place. -/
theorem roundTo53_le (number : Nat) :
    Number.roundTo53 number ≤ number + 1 <<< (number.log2 + 1 - 53) := by
  rw [Number.roundTo53]
  generalize 1 <<< (number.log2 + 1 - 53) = unit
  calc
    _ ≤ (number / unit + 1) * unit := by
      apply Nat.mul_le_mul_right
      split <;> omega
    _ = number / unit * unit + unit := Nat.succ_mul ..
    _ ≤ number + unit := Nat.add_le_add_right (Nat.div_mul_le_self ..) unit

theorem roundTo53_lt_of_lt
    {number : Nat}
    (fits : number < UInt64.size) :
    Number.roundTo53 number < (1 <<< 1024) - (1 <<< 970) := by
  have places : number.log2 + 1 - 53 ≤ 11 := by
    by_cases zero : number = 0
    · rw [zero]
      decide
    · have short : number.log2 < 64 := (Nat.log2_lt zero).2 fits
      omega
  have unit : 1 <<< (number.log2 + 1 - 53) ≤ 2 ^ 11 := by
    rw [Nat.one_shiftLeft]
    exact Nat.pow_le_pow_right (by decide) places
  calc
    Number.roundTo53 number ≤ number + 1 <<< (number.log2 + 1 - 53) :=
      roundTo53_le number
    _ < UInt64.size + 2 ^ 11 := Nat.add_lt_add_of_lt_of_le fits unit
    _ ≤ (1 <<< 1024) - (1 <<< 970) := by decide

theorem isOutOfRange_ofDigits
    {digits : List Nat}
    (fits : digitsValue digits < UInt64.size) :
    (Number.ofDigits digits).isOutOfRange = false := by
  have whole : Number.takeWhole (Number.ofDigits digits).whole =
      (digitsValue digits, 0) := takeWhole_of_lt fits
  have power : Number.roundTo53 (Nat.pow 10 0) = 1 := by decide
  have below := roundTo53_lt_of_lt fits
  rw [Number.isOutOfRange, whole]
  simp only [Number.ofDigits, Option.getD_none, Number.takeFraction]
  split
  · rfl
  · rw [if_neg (by decide)]
    apply decide_eq_false
    change ¬(1 <<< 1024) - (1 <<< 970) ≤
      Number.roundTo53 (digitsValue digits) * Number.roundTo53 (Nat.pow 10 0)
    rw [power, Nat.mul_one]
    exact Nat.not_le.2 below

/-- A number below the bound of its field is read back. -/
theorem readNatural_decimalText
    {bound number : Nat}
    (below : number < bound)
    (fits : bound ≤ UInt64.size)
    {rest : List Char}
    (ended : EndsValue rest) :
    readNatural bound ((decimalText number).toList ++ rest) = .ok (number, rest) := by
  obtain ⟨digits, written⟩ := exists_writtenDigits number
  have small : digitsValue digits < UInt64.size := by
    rw [written.value]
    omega
  have read : readNumber (decimal number ++ rest) = .ok (.ofDigits digits, rest) := by
    rw [readNumber, scanNumber_decimal written .truncated ended, ok_bind]
    simp only [isOutOfRange_ofDigits small]
    rfl
  have value : (Number.ofDigits digits).natural? = some number := by
    rw [← written.value]
    exact if_pos small
  obtain ⟨first, others, rfl⟩ := List.exists_cons_of_ne_nil written.ne_nil
  have start := digitChar_startsNumber first (written.small first List.mem_cons_self)
  have atDigit : skipSpace (decimal number ++ rest) = decimal number ++ rest := by
    rw [written.text]
    exact skipSpace_cons start.1 _
  have isNumber : (decimal number ++ rest).head?.any startsNumber = true := by
    rw [written.text]
    exact start.2
  rw [decimalText, String.toList_ofList, readNatural, atDigit, if_pos isNumber, read,
    ok_bind]
  simp only [value, Option.filter_some, below, decide_true, if_true]
  rfl

/-! ## Plain texts -/

/-- What holds of the ten digit characters holds throughout a numeral. -/
theorem forall_mem_decimal
    {holds : Char → Prop}
    (digits : ∀ digit < 10, holds (digitChar digit))
    {number : Nat} :
    ∀ char ∈ decimal number, holds char := by
  obtain ⟨written, text, small, -⟩ := exists_writtenDigits number
  intro char member
  rw [text] at member
  obtain ⟨digit, listed, rfl⟩ := List.mem_map.1 member
  exact digits digit (small digit listed)

/-- A text that stands inside a string as it is. -/
def IsPlain (text : String) : Prop :=
  text.toList.flatMap writeChar = text.toList

instance (text : String) : Decidable (IsPlain text) :=
  inferInstanceAs (Decidable (text.toList.flatMap writeChar = text.toList))

theorem IsPlain.append
    {first second : String}
    (plainFirst : IsPlain first)
    (plainSecond : IsPlain second) : IsPlain (first ++ second) := by
  rw [IsPlain, String.toList_append, List.flatMap_append, plainFirst, plainSecond]

theorem isPlain_decimalText (number : Nat) : IsPlain (decimalText number) := by
  have plain : ∀ char ∈ decimal number, writeChar char = [char] :=
    forall_mem_decimal (by decide)
  rw [IsPlain, decimalText, String.toList_ofList, List.flatMap_congr plain,
    List.flatMap_singleton']

theorem IsPlain.writeString_eq {text : String} (plain : IsPlain text) :
    writeString text = "\"" ++ text ++ "\"" := by
  rw [writeString, plain, ← String.toList_inj, String.toList_append,
    String.toList_append, String.toList_ofList]
  rfl

end Json
end Turnstile
