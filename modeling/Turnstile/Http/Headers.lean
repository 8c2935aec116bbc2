import Turnstile.Text.Utf8

/-!
# Header fields

A multimap from case-insensitive names to byte values.  Names are kept in lower
case; a name may have several values, which stay in the order they were added.
-/

namespace Turnstile
namespace Http

open Text

/-- Header fields in the order they were added. -/
structure Headers where
  fields : List (String × Bytes)
deriving DecidableEq, Repr

namespace Headers

/-- No fields. -/
def empty : Headers where
  fields := []

/-- A name in the case that fields are kept in. -/
def normalName (name : String) : String :=
  String.ofList (name.toList.map Char.toLower)

/-- Adds a value to those that a name already has. -/
def add (headers : Headers) (name : String) (value : Bytes) : Headers where
  fields := headers.fields ++ [(normalName name, value)]

/-- The fields of a list of names and values. -/
def ofList (fields : List (String × Bytes)) : Headers :=
  fields.foldl (fun headers field => headers.add field.1 field.2) empty

/-- All values of a name, in order. -/
def values (headers : Headers) (name : String) : List Bytes :=
  (headers.fields.filter fun field => field.1 = name).map Prod.snd

/-- The first value of a name. -/
def first? (headers : Headers) (name : String) : Option Bytes :=
  (headers.values name).head?

/-- Gives a name one value in place of all it had. -/
def set (headers : Headers) (name : String) (value : Bytes) : Headers where
  fields := headers.fields.filter (fun field => field.1 ≠ name) ++ [(name, value)]

/-- A name that was set has exactly the value it was set to. -/
@[simp] theorem values_set_self (headers : Headers) (name : String) (value : Bytes) :
    (headers.set name value).values name = [value] := by
  simp [values, set, List.filter_filter]

/-- Setting a name leaves the values of every other name as they were. -/
theorem values_set_of_ne
    (headers : Headers)
    {name other : String}
    (distinct : other ≠ name)
    (value : Bytes) :
    (headers.set name value).values other = headers.values other := by
  have kept (field : String × Bytes) :
      (decide (field.1 = other) && !decide (field.1 = name)) =
        decide (field.1 = other) := by
    by_cases same : field.1 = other
    · simp [same, distinct]
    · simp [same]
  simp [values, set, List.filter_filter, kept, Ne.symm distinct]

end Headers
end Http
end Turnstile
