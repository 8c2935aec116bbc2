import Turnstile.Calendar.Timestamp
import Turnstile.Json.Scan

/-!
# JSON records

Reading a record with known fields, either from an object, where the fields may
come in any order among others, or from a list of the values in order.  A field
may not be given twice, and none may be missing.
-/

namespace Turnstile
namespace Json

open Text

/-- What the value of a field has to be. -/
inductive Kind where
  | text
  | flag
  /-- An integer from zero up to a bound, which is excluded. -/
  | natural (bound : Nat)
  | timestamp
deriving DecidableEq, Repr

/-- The value of a field. -/
inductive Value where
  | text (text : List Char)
  | flag (flag : Bool)
  | natural (number : Nat)
  | timestamp (timestamp : Calendar.Timestamp)
deriving DecidableEq, Repr

/-- The names of the fields of a record, in order, and what their values are. -/
abbrev Schema := List (String × Kind)

/-- The fault of a value of the wrong kind.  Words, numbers and strings are read
to their end first. -/
def misfit (text : List Char) : Fault :=
  let ofScan {α : Type} : Except Fault α → Fault
    | .ok _ => .shape
    | .error fault => fault
  match text with
  | [] => .truncated
  | 'n' :: rest => ofScan (scanWord "ull".toList rest)
  | 't' :: rest => ofScan (scanWord "rue".toList rest)
  | 'f' :: rest => ofScan (scanWord "alse".toList rest)
  | '"' :: rest => ofScan (scanString .plain rest)
  | '[' :: _ => .shape
  | '{' :: _ => .shape
  | char :: rest =>
      if startsNumber char then ofScan (readNumber (char :: rest)) else .grammar

/-- Reads a string. -/
def readText (text : List Char) : Except Fault (List Char × List Char) :=
  match skipSpace text with
  | '"' :: rest => scanString .plain rest
  | other => .error (misfit other)

/-- Reads a truth value. -/
def readFlag (text : List Char) : Except Fault (Bool × List Char) :=
  match skipSpace text with
  | 't' :: rest => (scanWord "rue".toList rest).map fun rest => (true, rest)
  | 'f' :: rest => (scanWord "alse".toList rest).map fun rest => (false, rest)
  | other => .error (misfit other)

/-- Reads an integer from zero up to a bound. -/
def readNatural (bound : Nat) (text : List Char) : Except Fault (Nat × List Char) :=
  let text := skipSpace text
  if text.head?.any startsNumber then do
    let (number, rest) ← readNumber text
    match number.natural?.filter (· < bound) with
    | some value => return (value, rest)
    | none => .error .shape
  else .error (misfit text)

/-- Reads a timestamp, which is written as a string. -/
def readTimestamp
    (text : List Char) : Except Fault (Calendar.Timestamp × List Char) := do
  let (written, rest) ← readText text
  match Calendar.Timestamp.read? written with
  | some timestamp => return (timestamp, rest)
  | none => .error .shape

/-- Reads the value of a field. -/
def readValue (kind : Kind) (text : List Char) : Except Fault (Value × List Char) :=
  match kind with
  | .text => (readText text).map fun (value, rest) => (.text value, rest)
  | .flag => (readFlag text).map fun (value, rest) => (.flag value, rest)
  | .natural bound =>
      (readNatural bound text).map fun (value, rest) => (.natural value, rest)
  | .timestamp =>
      (readTimestamp text).map fun (value, rest) => (.timestamp value, rest)

/-! ## Objects -/

/-- Reads the colon after a name. -/
def readColon (text : List Char) : Except Fault (List Char) :=
  match skipSpace text with
  | ':' :: rest => .ok rest
  | [] => .error .truncated
  | _ :: _ => .error .grammar

/-- Whether another name follows in an object, and the text from its quote or
from the closing brace on. -/
def nextName
    (isFirst : Bool) (text : List Char) : Except Fault (Bool × List Char) :=
  match skipSpace text with
  | [] => .error .truncated
  | char :: rest =>
      if char = '}' then .ok (false, char :: rest)
      else
        let atName :=
          if isFirst then some (char :: rest)
          else if char = ',' then some (skipSpace rest)
          else none
        match atName with
        | none => .error .grammar
        | some [] => .error .truncated
        | some ('"' :: rest) => .ok (true, '"' :: rest)
        | some (_ :: _) => .error .grammar

/-- Reads the members of an object up to its closing brace.  Members that the
schema does not know are passed over.  Every member takes a character, so the
length of the text is fuel enough. -/
def readMembers
    (schema : Schema) :
    (fuel : Nat) → (isFirst : Bool) → List (String × Value) → List Char →
      Except Fault (List (String × Value) × List Char)
  | 0, _, _, _ => .error .truncated
  | fuel + 1, isFirst, found, text => do
      let (more, text) ← nextName isFirst text
      if !more then return (found, text)
      else
        let (chars, rest) ← scanString .plain (text.drop 1)
        let name := String.ofList chars
        match schema.lookup name with
        | some kind =>
            if (found.lookup name).isSome then .error .shape
            else
              let rest ← readColon rest
              let (value, rest) ← readValue kind rest
              readMembers schema fuel false ((name, value) :: found) rest
        | none =>
            let rest ← readColon rest
            let rest ← skipValue rest
            readMembers schema fuel false found rest

/-- The values of a schema's fields among the members found. -/
def collect (schema : Schema) (found : List (String × Value)) : Option (List Value) :=
  schema.mapM fun field => found.lookup field.1

/-! ## Lists -/

/-- Reads the values of a schema's fields from a list, up to its end. -/
def readElements :
    Schema → (isFirst : Bool) → List Char → Except Fault (List Value × List Char)
  | [], _, text => .ok ([], text)
  | (_, kind) :: schema, isFirst, text =>
      match skipSpace text with
      | [] => .error .truncated
      | char :: rest => do
          if char = ']' then .error .shape
          else
            let element ←
              if isFirst then .ok (char :: rest)
              else if char = ',' then
                match skipSpace rest with
                | [] => .error .truncated
                | ']' :: _ => .error .grammar
                | element => .ok element
              else .error .grammar
            let (value, rest) ← readValue kind element
            let (values, rest) ← readElements schema false rest
            return (value :: values, rest)

/-! ## Records -/

/-- Reads the closing mark of a record and makes sure that nothing follows. -/
def finish (mark : Char) (text : List Char) : Except Fault Unit :=
  match skipSpace text with
  | [] => .error .truncated
  | char :: rest =>
      if char = mark then
        if (skipSpace rest).isEmpty then .ok () else .error .grammar
      else .error .grammar

/-- Reads a text that is one record, and gives the values in the order of the
schema. -/
def readRecord (schema : Schema) (text : String) : Except Fault (List Value) :=
  match skipSpace text.toList with
  | '[' :: rest => do
      let (values, rest) ← readElements schema true rest
      finish ']' rest
      return values
  | '{' :: rest => do
      let (found, rest) ← readMembers schema (rest.length + 1) true [] rest
      match collect schema found with
      | some values =>
          finish '}' rest
          return values
      | none => .error .shape
  | other => .error (misfit other)

end Json
end Turnstile
