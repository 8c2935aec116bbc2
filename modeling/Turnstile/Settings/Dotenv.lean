import Turnstile.Settings.Environment
import Turnstile.Text.Alphanumeric
import Turnstile.Text.Blank

/-!
# Environment files

A file of lines `NAME=value` that supplies variables which the environment does
not set.  A line may start with `export`, a value may stand in quotes and may
mention other variables, and a `#` after a blank starts a comment.  An assignment
goes on over the next line while a quote or an escape is open.

Loading stops at the first line that is no assignment; the assignments before it
stay in force.
-/

namespace Turnstile
namespace Settings
namespace Dotenv

open Text

/-! ## Logical lines -/

/-- Cuts a text after every line feed. -/
def physicalLines : List Char → List (List Char)
  | [] => []
  | '\n' :: rest => ['\n'] :: physicalLines rest
  | char :: rest =>
      match physicalLines rest with
      | [] => [[char]]
      | line :: lines => (char :: line) :: lines

/-- What is open at a point of a line. -/
inductive Opening where
  | nothing
  | blank
  | escape
  | single
  | singleEscape
  | double
  | doubleEscape
deriving DecidableEq, Repr

/-- What one more character leaves open. -/
def Opening.next (opening : Opening) (char : Char) : Opening :=
  match opening with
  | nothing =>
      if isBlank char && char ≠ '\n' && char ≠ '\r' then blank
      else if char = '\\' then escape
      else if char = '"' then double
      else if char = '\'' then single
      else nothing
  | blank =>
      if char = '\\' then escape
      else if char = '"' then double
      else if char = '\'' then single
      else nothing
  | escape => nothing
  | single =>
      if char = '\\' then singleEscape else if char = '\'' then nothing else single
  | singleEscape => single
  | double =>
      if char = '\\' then doubleEscape else if char = '"' then nothing else double
  | doubleEscape => double

/-- Follows a line to its end or to a comment, and gives what is then open, or
the text before the comment. -/
def scan : Opening → List Char → Except (List Char) Opening
  | opening, [] => .ok opening
  | opening, char :: rest =>
      if opening = .blank ∧ char = '#' then .error []
      else
        match scan (opening.next char) rest with
        | .ok final => .ok final
        | .error before => .error (char :: before)

/-- A line without its line end. -/
def dropLineEnd (line : List Char) : List Char :=
  match line.reverse with
  | '\n' :: '\r' :: rest => rest.reverse
  | '\n' :: rest => rest.reverse
  | _ => line

/-- Joins physical lines to logical ones.  The last line is `none` if something
is still open at the end of the file. -/
def logicalLines :
    (opening : Opening) → (pending : List Char) → List (List Char) →
      List (Option (List Char))
  | opening, _, [] => if opening = .nothing then [] else [none]
  | opening, pending, line :: lines =>
      let whole := pending ++ line
      if (trimStart whole).head? = some '#' then
        some [] :: logicalLines .nothing [] lines
      else
        match scan opening line with
        | .error before =>
            some (pending ++ before) :: logicalLines .nothing [] lines
        | .ok .nothing =>
            some (dropLineEnd whole) :: logicalLines .nothing [] lines
        | .ok still => logicalLines still whole lines

/-! ## Values -/

/-- How far the mention of a variable has been read. -/
inductive Mention where
  | absent
  | bare
  | braced
deriving DecidableEq, Repr

/-- The state of reading a value. -/
structure Reading where
  single : Bool
  double : Bool
  escaped : Bool
  /-- A blank has ended the value; only a comment may follow. -/
  ended : Bool
  mention : Mention
  name : List Char
  output : List Char

namespace Reading

/-- Nothing read yet. -/
def start : Reading where
  single := false
  double := false
  escaped := false
  ended := false
  mention := .absent
  name := []
  output := []

/-- Appends a character to the value. -/
def push (reading : Reading) (char : Char) : Reading :=
  { reading with output := reading.output ++ [char] }

/-- Puts the value of the mentioned variable in place of its mention. -/
def resolve (lookup : String → String) (reading : Reading) : Reading :=
  { reading with
    output := reading.output ++ (lookup (String.ofList reading.name)).toList
    name := []
    mention := .absent }

/-- The value at the end of its text, if no quote and no brace is open. -/
def finish? (lookup : String → String) (reading : Reading) : Option (List Char) :=
  if reading.mention = .braced || reading.single || reading.double then none
  else some (reading.resolve lookup).output

end Reading

/-- The character that an escape stands for. -/
def escaped? (char : Char) : Option Char :=
  if char = 'n' then some '\n'
  else if ['\\', '\'', '"', '$', ' '].contains char then some char
  else none

/-- Reads one more character of a mention.  Letters and numbers of any script make
up a bare name; in braces all other characters but the closing one do too. -/
def mentionNext
    (lookup : String → String)
    (reading : Reading)
    (char : Char) : Reading :=
  if isAlphanumeric char then { reading with name := reading.name ++ [char] }
  else if reading.mention = .braced then
    if char = '}' then reading.resolve lookup
    else { reading with name := reading.name ++ [char] }
  else if char = '{' && reading.name.isEmpty then
    { reading with mention := .braced }
  else if char = '$' then { reading.resolve lookup with mention := .bare }
  else (reading.resolve lookup).push char

/-- Reads a value to its end.  A value that breaks a rule, or that leaves a quote
or a brace open, is none. -/
def readValue
    (lookup : String → String)
    (reading : Reading) : List Char → Option (List Char)
  | [] => reading.finish? lookup
  | char :: rest =>
      if reading.ended then
        if char = ' ' || char = '\t' then readValue lookup reading rest
        else if char = '#' then reading.finish? lookup
        else none
      else if reading.escaped then
        (escaped? char).bind fun plain =>
          readValue lookup { reading.push plain with escaped := false } rest
      else if reading.single then
        if char = '\'' then readValue lookup { reading with single := false } rest
        else readValue lookup (reading.push char) rest
      else if reading.mention ≠ .absent then
        readValue lookup (mentionNext lookup reading char) rest
      else if char = '$' then
        readValue lookup { reading with mention := .bare } rest
      else if reading.double then
        if char = '"' then readValue lookup { reading with double := false } rest
        else if char = '\\' then
          readValue lookup { reading with escaped := true } rest
        else readValue lookup (reading.push char) rest
      else if char = '\'' then
        readValue lookup { reading with single := true } rest
      else if char = '"' then
        readValue lookup { reading with double := true } rest
      else if char = '\\' then
        readValue lookup { reading with escaped := true } rest
      else if char = ' ' || char = '\t' then
        readValue lookup { reading with ended := true } rest
      else readValue lookup (reading.push char) rest

/-! ## Assignments -/

/-- The name that a line starts with, and what follows it. -/
def readName? (line : List Char) : Option (List Char × List Char) :=
  let belongs (char : Char) : Bool :=
    char.isAlphanum || char = '_' || char = '.'
  match line with
  | first :: _ =>
      if first.isAlpha || first = '_' then
        some (line.takeWhile belongs, line.dropWhile belongs)
      else none
  | [] => none

/-- What follows an equals sign. -/
def afterEquals? : List Char → Option (List Char)
  | '=' :: rest => some rest
  | _ => none

/-- The name that a line assigns, and the text of its value.  The word `export`
may come before the name, and is a name itself if an equals sign follows. -/
def readAssigned? (line : List Char) : Option (List Char × List Char) := do
  let (name, rest) ← readName? line
  match afterEquals? (trimStart rest) with
  | some value => return (name, trimStart value)
  | none =>
      if name = "export".toList then
        let (name, rest) ← readName? (trimStart rest)
        let value ← afterEquals? (trimStart rest)
        return (name, trimStart value)
      else none

/-- What a logical line comes to. -/
inductive Line where
  | blank
  | assignment (name value : String)
  | malformed
deriving DecidableEq, Repr

/-- Reads a logical line, whose blanks at either end do not count; `lookup` gives the
values of mentioned variables. -/
def readLine (lookup : String → String) (line : List Char) : Line :=
  match trim line with
  | [] => .blank
  | '#' :: _ => .blank
  | content =>
      match readAssigned? content with
      | none => .malformed
      | some (name, text) =>
          let value :=
            match text with
            | [] => some []
            | '#' :: _ => some []
            | _ => readValue lookup .start text
          match value with
          | some value => .assignment (String.ofList name) (String.ofList value)
          | none => .malformed

/-- Supplies the assignments of logical lines up to the first malformed one.
A mention means the environment's text, else the file's latest assignment. -/
def supplyLines
    (environment : Environment)
    (assigned : List (String × String)) :
    List (Option (List Char)) → Environment
  | [] => environment
  | none :: _ => environment
  | some line :: lines =>
      let lookup (name : String) : String :=
        (environment.mentioned? name).getD ((assigned.lookup name).getD "")
      match readLine lookup line with
      | .blank => supplyLines environment assigned lines
      | .assignment name value =>
          supplyLines (environment.supply name value) ((name, value) :: assigned)
            lines
      | .malformed => environment

/-- Supplies the variables of a file, whose byte order mark does not count. -/
def supply (environment : Environment) (file : String) : Environment :=
  let text :=
    match file.toList with
    | '\uFEFF' :: rest => rest
    | text => text
  supplyLines environment [] (logicalLines .nothing [] (physicalLines text))

end Dotenv
end Settings
end Turnstile
