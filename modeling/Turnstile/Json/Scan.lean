import Turnstile.Text.Numeral

/-!
# Scanning JSON

Scanners for the parts of a JSON text.  Each reads from the front of a text and
gives what is left.  A text can be at fault in three ways: it breaks the grammar,
it ends too early, or it is grammatical but does not have the shape that is asked
for.  The first fault in reading order is the one reported.
-/

namespace Turnstile
namespace Json

open Text

/-- How a text can be at fault. -/
inductive Fault where
  /-- The text is not the value that is asked for. -/
  | shape
  /-- The text is not JSON. -/
  | grammar
  /-- The text ends inside a value. -/
  | truncated
deriving DecidableEq, Repr

/-- Whether a character may stand between the tokens of a text. -/
def isSpace (char : Char) : Bool :=
  char = ' ' || char = '\n' || char = '\t' || char = '\r'

/-- A text from its next token on. -/
def skipSpace (text : List Char) : List Char :=
  text.dropWhile isSpace

/-- Reads the given word. -/
def scanWord : (word : List Char) → List Char → Except Fault (List Char)
  | [], text => .ok text
  | _ :: _, [] => .error .truncated
  | expected :: word, char :: rest =>
      if char = expected then scanWord word rest else .error .grammar

/-! ## Strings -/

/-- Where in a string the scanner stands. -/
inductive StringStage where
  | plain
  | escape
  /-- Inside the four digits of an escaped code unit, which may follow a leading
  surrogate. -/
  | unit (lead : Option Nat) (missing value : Nat)
  /-- After a leading surrogate, before the escape of its trailing one. -/
  | trailingSlash (lead : Nat)
  | trailingLetter (lead : Nat)
deriving DecidableEq, Repr

/-- Whether at least four bytes of a text are left. -/
def hasFourBytes (text : List Char) : Bool :=
  4 ≤ (text.take 4).foldl (fun bytes char => bytes + char.utf8Size) 0

/-- The character of an escape letter. -/
def escapedChar? (letter : Char) : Option Char :=
  match letter with
  | '"' => some '"'
  | '\\' => some '\\'
  | '/' => some '/'
  | 'b' => some '\x08'
  | 'f' => some '\x0c'
  | 'n' => some '\n'
  | 'r' => some '\r'
  | 't' => some '\t'
  | _ => none

/-- What a complete code unit leads to: a character, or the wait for a trailing
surrogate.  A surrogate without its partner stands for no character. -/
def closeUnit (lead : Option Nat) (value : Nat) : Option (Option Char × StringStage) :=
  match lead with
  | none =>
      if 0xDC00 ≤ value ∧ value ≤ 0xDFFF then none
      else if 0xD800 ≤ value ∧ value ≤ 0xDBFF then
        some (none, .trailingSlash value)
      else some (some (Char.ofNat value), .plain)
  | some lead =>
      if 0xDC00 ≤ value ∧ value ≤ 0xDFFF then
        let code := (lead - 0xD800) * 0x400 + (value - 0xDC00) + 0x10000
        some (some (Char.ofNat code), .plain)
      else none

/-- Reads a string after its opening quote, and gives its characters and what
follows the closing quote. -/
def scanString : StringStage → List Char → Except Fault (List Char × List Char)
  | _, [] => .error .truncated
  | .plain, char :: rest =>
      if char = '"' then .ok ([], rest)
      else if char = '\\' then scanString .escape rest
      else if char.toNat < 0x20 then .error .grammar
      else do
        let (chars, rest) ← scanString .plain rest
        return (char :: chars, rest)
  | .escape, char :: rest =>
      if char = 'u' then
        if hasFourBytes rest then scanString (.unit none 4 0) rest
        else .error .truncated
      else
        match escapedChar? char with
        | some plain => do
            let (chars, rest) ← scanString .plain rest
            return (plain :: chars, rest)
        | none => .error .grammar
  | .unit lead missing value, char :: rest =>
      match digit? 16 char with
      | none => .error .grammar
      | some digit =>
          let value := value * 16 + digit
          if 1 < missing then scanString (.unit lead (missing - 1) value) rest
          else
            match closeUnit lead value with
            | none => .error .grammar
            | some (some plain, stage) => do
                let (chars, rest) ← scanString stage rest
                return (plain :: chars, rest)
            | some (none, stage) => scanString stage rest
  | .trailingSlash lead, char :: rest =>
      if char = '\\' then scanString (.trailingLetter lead) rest
      else .error .grammar
  | .trailingLetter lead, char :: rest =>
      if char = 'u' then
        if hasFourBytes rest then scanString (.unit (some lead) 4 0) rest
        else .error .truncated
      else .error .grammar

/-- Where in a string that is passed over the scanner stands. -/
inductive SkipStage where
  | plain
  | escape
  | unit (missing : Nat)
deriving DecidableEq, Repr

/-- Passes over a string after its opening quote.  Its code units need not pair
up. -/
def skipString : SkipStage → List Char → Except Fault (List Char)
  | _, [] => .error .truncated
  | .plain, char :: rest =>
      if char = '"' then .ok rest
      else if char = '\\' then skipString .escape rest
      else if char.toNat < 0x20 then .error .grammar
      else skipString .plain rest
  | .escape, char :: rest =>
      if char = 'u' then
        if hasFourBytes rest then skipString (.unit 4) rest
        else .error .truncated
      else if (escapedChar? char).isSome then skipString .plain rest
      else .error .grammar
  | .unit missing, char :: rest =>
      if (digit? 16 char).isNone then .error .grammar
      else if 1 < missing then skipString (.unit (missing - 1)) rest
      else skipString .plain rest

/-! ## Numbers -/

/-- The parts of a written number. -/
structure Number where
  negative : Bool
  whole : List Nat
  fraction : Option (List Nat)
  exponent : Option Int
deriving DecidableEq, Repr

/-- The digits at the front of a text. -/
def scanDigits : List Char → List Nat × List Char
  | [] => ([], [])
  | char :: rest =>
      match digit? 10 char with
      | some digit =>
          let (digits, rest) := scanDigits rest
          (digit :: digits, rest)
      | none => ([], char :: rest)

/-- Digits of which there has to be one; `atEnd` is the fault of a text that ends
before it. -/
def scanSomeDigits
    (atEnd : Fault)
    (text : List Char) : Except Fault (List Nat × List Char) :=
  match scanDigits text with
  | ([], []) => .error atEnd
  | ([], _ :: _) => .error .grammar
  | (digits, rest) => .ok (digits, rest)

/-- The whole part of a number, which has no leading zero. -/
def scanWhole
    (atEnd : Fault)
    (text : List Char) : Except Fault (List Nat × List Char) := do
  let (digits, rest) ← scanSomeDigits atEnd text
  match digits with
  | 0 :: _ :: _ => .error .grammar
  | _ => return (digits, rest)

/-- The fraction of a number, if it has one. -/
def scanFraction
    (atEnd : Fault) : List Char → Except Fault (Option (List Nat) × List Char)
  | '.' :: rest => do
      let (digits, rest) ← scanSomeDigits atEnd rest
      return (some digits, rest)
  | text => .ok (none, text)

/-- The number that a list of decimal digits stands for. -/
def digitsValue (digits : List Nat) : Nat :=
  digits.foldl (fun value digit => value * 10 + digit) 0

/-- The exponent of a number, if it has one. -/
def scanExponent
    (atEnd : Fault) (text : List Char) : Except Fault (Option Int × List Char) :=
  match text with
  | char :: rest =>
      if char = 'e' || char = 'E' then do
        let (negative, rest) :=
          match rest with
          | '+' :: rest => (false, rest)
          | '-' :: rest => (true, rest)
          | _ => (false, rest)
        let (digits, rest) ← scanSomeDigits atEnd rest
        let value : Int := digitsValue digits
        return (some (if negative then -value else value), rest)
      else .ok (none, text)
  | [] => .ok (none, text)

/-- Reads a number; `atEnd` is the fault of a text that ends inside it. -/
def scanNumber
    (atEnd : Fault) (text : List Char) : Except Fault (Number × List Char) := do
  let (negative, text) :=
    match text with
    | '-' :: rest => (true, rest)
    | _ => (false, text)
  let (whole, text) ← scanWhole atEnd text
  let (fraction, text) ← scanFraction atEnd text
  let (exponent, text) ← scanExponent atEnd text
  return ({ negative, whole, fraction, exponent }, text)

namespace Number

/-- Digits taken into a 64-bit significand while they fit.  Later digits of the
whole part only raise the exponent. -/
def takeWhole (digits : List Nat) : Nat × Nat :=
  digits.foldl (fun (significand, raised) digit =>
    if raised = 0 ∧ significand * 10 + digit < UInt64.size then
      (significand * 10 + digit, 0)
    else (significand, raised + 1)) (0, 0)

/-- Fraction digits taken into a 64-bit significand while they fit, and how many
were taken. -/
def takeFraction : Nat → List Nat → Nat × Nat
  | significand, [] => (significand, 0)
  | significand, digit :: digits =>
      if significand * 10 + digit < UInt64.size then
        let (final, taken) := takeFraction (significand * 10 + digit) digits
        (final, taken + 1)
      else (significand, 0)

/-- A number rounded to 53 significant bits, ties to even. -/
def roundTo53 (number : Nat) : Nat :=
  let excess := number.log2 + 1 - 53
  let unit := 1 <<< excess
  let quotient := number / unit
  let twice := 2 * (number % unit)
  let up := unit < twice || (unit == twice && quotient % 2 == 1)
  (if up then quotient + 1 else quotient) * unit

/-- Whether the magnitude of a number exceeds what a double can hold. -/
def isOutOfRange (number : Number) : Bool :=
  let (whole, raised) := takeWhole number.whole
  let (significand, lowered) := takeFraction whole (number.fraction.getD [])
  let exponent : Int := raised - lowered + number.exponent.getD 0
  if significand = 0 || exponent < 0 then false
  else if 308 < exponent then true
  else
    (1 <<< 1024) - (1 <<< 970) ≤
      roundTo53 significand * roundTo53 (Nat.pow 10 exponent.toNat)

/-- The natural number below `2 ^ 64` that is written without sign, fraction and
exponent. -/
def natural? (number : Number) : Option Nat :=
  if number.negative || number.fraction.isSome || number.exponent.isSome then none
  else
    let value := digitsValue number.whole
    if value < UInt64.size then some value else none

end Number

/-- Reads a number whose magnitude a double can hold. -/
def readNumber (text : List Char) : Except Fault (Number × List Char) := do
  let (number, rest) ← scanNumber .truncated text
  if number.isOutOfRange then .error .grammar else return (number, rest)

/-! ## Passing over values -/

/-- A list or an object that is still open. -/
inductive Frame where
  | list
  | object
deriving DecidableEq, Repr

/-- What a scanner that passes over a value expects next. -/
inductive Expected where
  | value
  /-- A name and a colon, and then a value. -/
  | member
  /-- The first element, or the end, of the innermost open value. -/
  | first
  /-- A comma, or the end, of the innermost open value. -/
  | next
deriving DecidableEq, Repr

/-- Whether a character closes an open value. -/
def closes : Frame → Char → Bool
  | .list, char => char = ']'
  | .object, char => char = '}'

/-- What an element of an open value starts with. -/
def Frame.element : Frame → Expected
  | list => .value
  | object => .member

/-- Whether a character starts a number. -/
def startsNumber (char : Char) : Bool :=
  char = '-' || (digit? 10 char).isSome

/-- Passes over a value and what is left of the open ones around it.  Every step
takes a character, so the length of the text is fuel enough. -/
def skipFrom :
    (fuel : Nat) → Expected → List Frame → List Char → Except Fault (List Char)
  | 0, _, _, _ => .error .truncated
  | fuel + 1, .value, frames, text =>
      match skipSpace text with
      | [] => .error .truncated
      | '"' :: rest => do
          let rest ← skipString .plain rest
          skipFrom fuel .next frames rest
      | '[' :: rest => skipFrom fuel .first (.list :: frames) rest
      | '{' :: rest => skipFrom fuel .first (.object :: frames) rest
      | 'n' :: rest => do
          let rest ← scanWord "ull".toList rest
          skipFrom fuel .next frames rest
      | 't' :: rest => do
          let rest ← scanWord "rue".toList rest
          skipFrom fuel .next frames rest
      | 'f' :: rest => do
          let rest ← scanWord "alse".toList rest
          skipFrom fuel .next frames rest
      | char :: rest =>
          if startsNumber char then do
            let (_, rest) ← scanNumber .grammar (char :: rest)
            skipFrom fuel .next frames rest
          else .error .grammar
  | fuel + 1, .member, frames, text =>
      match skipSpace text with
      | [] => .error .truncated
      | '"' :: rest => do
          let rest ← skipString .plain rest
          match skipSpace rest with
          | [] => .error .truncated
          | ':' :: rest => skipFrom fuel .value frames rest
          | _ :: _ => .error .grammar
      | _ :: _ => .error .grammar
  | _ + 1, .first, [], text => .ok text
  | fuel + 1, .first, frame :: frames, text =>
      match skipSpace text with
      | [] => .error .truncated
      | char :: rest =>
          if closes frame char then skipFrom fuel .next frames rest
          else skipFrom fuel frame.element (frame :: frames) (char :: rest)
  | _ + 1, .next, [], text => .ok text
  | fuel + 1, .next, frame :: frames, text =>
      match skipSpace text with
      | [] => .error .truncated
      | char :: rest =>
          if char = ',' then skipFrom fuel frame.element (frame :: frames) rest
          else if closes frame char then skipFrom fuel .next frames rest
          else .error .grammar

/-- Passes over one value. -/
def skipValue (text : List Char) : Except Fault (List Char) :=
  skipFrom (2 * text.length + 2) .value [] text

end Json
end Turnstile
