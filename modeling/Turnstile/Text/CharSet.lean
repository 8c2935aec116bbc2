/-!
# Sets of characters

A set of characters, given by the ranges of their code points.  The sets in the
modules beside this one are properties of the Unicode standard, version 17.
-/

namespace Turnstile
namespace Text

/-- A set of characters: ranges of code points, each from its first to its
last. -/
structure CharSet where
  ranges : List (Nat × Nat)
deriving Repr

namespace CharSet

/-- Whether a character belongs to a set. -/
def contains (set : CharSet) (char : Char) : Bool :=
  set.ranges.any fun (first, last) =>
    first ≤ char.toNat && char.toNat ≤ last

end CharSet
end Text
end Turnstile
