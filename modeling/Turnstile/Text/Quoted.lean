import Turnstile.Text.DefaultIgnorable
import Turnstile.Text.Escape
import Turnstile.Text.GraphemeExtend
import Turnstile.Text.Unprintable

/-!
# Quoted texts

Texts as they are shown in log lines: in quotes, with everything that would not
be seen as itself shown by an escape.
-/

namespace Turnstile
namespace Text

/-- The halfwidth sound marks of katakana.  They extend the character before them,
but are letters of their own that take up space. -/
def halfwidthMarks : CharSet where
  ranges := [(0xFF9E, 0xFF9F)]

/-- Whether a character is drawn as a mark on the one before it. -/
def isMark (char : Char) : Bool :=
  graphemeExtend.contains char && !halfwidthMarks.contains char

/-- Whether a character is shown by its code: it would not be seen, or only as a
mark on the character before it. -/
def isHidden (char : Char) : Bool :=
  isMark char || defaultIgnorable.contains char || unprintable.contains char

/-- A character as it is shown in quotes. -/
def quoteChar (char : Char) : List Char :=
  match char with
  | '"' => ['\\', '"']
  | '\\' => ['\\', '\\']
  | '\n' => ['\\', 'n']
  | '\r' => ['\\', 'r']
  | '\t' => ['\\', 't']
  | '\x00' => ['\\', '0']
  | _ =>
      if isHidden char then codeEscape char else [char]

/-- A text in quotes. -/
def quote (text : String) : String :=
  String.ofList ('"' :: text.toList.flatMap quoteChar ++ ['"'])

/-- A list of texts in quotes. -/
def quoteAll (texts : List String) : String :=
  "[" ++ String.intercalate ", " (texts.map quote) ++ "]"

end Text
end Turnstile
