import Turnstile.Text.Numeral

/-!
# Escapes

How a character that is not written as itself is written by its code.
-/

namespace Turnstile
namespace Text

/-- The code of a character in braces, as in `\u{e9}`. -/
def codeEscape (char : Char) : List Char :=
  "\\u\x7b".toList ++ numeral 16 char.toNat ++ ['}']

/-- The code of a character below 256 in two digits, as in `\x1b`. -/
def byteEscape (char : Char) : List Char :=
  ['\\', 'x', digitChar (char.toNat / 16), digitChar (char.toNat % 16)]

end Text
end Turnstile
