import Turnstile.Text.Escape

/-!
# Texts for a terminal

Texts that a terminal shows without acting on them: the control characters that
could move its cursor or start a command are written by their codes.
-/

namespace Turnstile
namespace Text

/-- The ASCII characters that a terminal acts on: bell, backspace, form feed,
escape and delete.  Tabs and line ends are not counted among them. -/
def terminalControls : List Char :=
  ['\x07', '\x08', '\x0c', '\x1b', '\x7f']

/-- A character as it is written to a terminal. -/
def terminalChar (char : Char) : List Char :=
  if terminalControls.contains char then byteEscape char
  else if 0x80 ≤ char.toNat && char.toNat ≤ 0x9F then codeEscape char
  else [char]

/-- A text as it is written to a terminal. -/
def forTerminal (text : String) : String :=
  String.ofList (text.toList.flatMap terminalChar)

end Text
end Turnstile
