import Turnstile.Text.Numeral

/-!
# JSON texts

The written form of strings: quotes, backslashes and control characters are
escaped, every other character stands for itself.
-/

namespace Turnstile
namespace Json

open Text

/-- The short escape of a character, if it has one. -/
def shortEscape? (char : Char) : Option Char :=
  match char with
  | '"' => some '"'
  | '\\' => some '\\'
  | '\x08' => some 'b'
  | '\x0c' => some 'f'
  | '\n' => some 'n'
  | '\r' => some 'r'
  | '\t' => some 't'
  | _ => none

/-- The written form of one character of a string. -/
def writeChar (char : Char) : List Char :=
  match shortEscape? char with
  | some letter => ['\\', letter]
  | none =>
      if char.toNat < 0x20 then
        "\\u00".toList ++
          [digitChar (char.toNat / 16), digitChar (char.toNat % 16)]
      else [char]

/-- The written form of a string, with its quotes. -/
def writeString (text : String) : String :=
  String.ofList ('"' :: text.toList.flatMap writeChar ++ ['"'])

/-- The written form of a truth value. -/
def writeFlag (flag : Bool) : String :=
  if flag then "true" else "false"

/-- The written form of an object with the given names and written values. -/
def writeObject (fields : List (String × String)) : String :=
  let members := fields.map fun field => writeString field.1 ++ ":" ++ field.2
  "\x7b" ++ String.intercalate "," members ++ "\x7d"

end Json
end Turnstile
