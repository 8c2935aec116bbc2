/-!
# Request targets

The path that a request target names.  A target is a path with an optional
query, an absolute address with a scheme and a host before the path, an
asterisk, or a bare host.  The query, the fragment and the host do not belong
to the path.
-/

namespace Turnstile
namespace Http
namespace Target

/-- Whether a character ends a path. -/
def endsPath (char : Char) : Bool :=
  char = '?' || char = '#'

/-- The text up to a query or a fragment. -/
def beforeQuery (text : List Char) : List Char :=
  text.takeWhile fun char => !endsPath char

/-- Whether a character may stand in a scheme. -/
def isSchemeChar (char : Char) : Bool :=
  char.isAlphanum || ['+', '-', '.', '~'].contains char

/-- What follows the scheme of an absolute target. -/
def afterScheme? : List Char → Option (List Char)
  | ':' :: '/' :: '/' :: rest => some rest
  | char :: rest => if isSchemeChar char then afterScheme? rest else none
  | [] => none

/-- The characters of the path that a target names. -/
def pathChars (target : List Char) : List Char :=
  match target with
  | '/' :: _ => beforeQuery target
  | ['*'] => target
  | _ =>
      match afterScheme? target with
      | some located =>
          let rest := located.dropWhile fun char => !(char = '/' || endsPath char)
          if (beforeQuery rest).isEmpty then ['/'] else beforeQuery rest
      | none => []

/-- The path that a target names; an absolute target without one names the
root. -/
def path (target : String) : String :=
  String.ofList (pathChars target.toList)

end Target
end Http
end Turnstile
