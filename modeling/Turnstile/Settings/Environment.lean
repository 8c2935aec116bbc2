import Turnstile.Text.Fields
import Turnstile.Text.Utf8

/-!
# Environments

Named byte values as a process receives them.  A value counts as text only if it
is UTF-8; any other value is treated as if it were missing.
-/

namespace Turnstile
namespace Settings

open Text

/-- The variables of a process, the latest value of a name first. -/
structure Environment where
  entries : List (String × Bytes)
deriving DecidableEq, Repr

namespace Environment

/-- The value of a variable. -/
def bytes? (environment : Environment) (name : String) : Option Bytes :=
  environment.entries.lookup name

/-- The text of a value, if it is UTF-8. -/
def decode? (value : Bytes) : Option String :=
  String.fromUTF8? (ByteArray.mk value.toArray)

/-- The value of a variable as text. -/
def text? (environment : Environment) (name : String) : Option String :=
  (environment.bytes? name).bind decode?

/-- The text that a mention of a name stands for.  A variable and its value are
looked through as one line `name=value`, and the text is what follows the mentioned
name and an equals sign.  A mention that holds an equals sign itself reaches into
the value. -/
def mentioned? (environment : Environment) (mention : String) : Option String :=
  match splitOnce '=' mention.toList with
  | none => environment.text? mention
  | some (name, start) =>
      let skipped := Utf8.encode (String.ofList (start ++ ['=']))
      (environment.bytes? (String.ofList name)).bind fun value =>
        (skipped.isPrefixOf? value).bind decode?

/-- Gives a variable a value unless it already has a text. -/
def supply (environment : Environment) (name value : String) : Environment :=
  match environment.text? name with
  | some _ => environment
  | none =>
      { entries := (name, Utf8.encode value) :: environment.entries }

end Environment
end Settings
end Turnstile
