/-!
# Keyed tables

A finite table from texts to values, each key stored once.  The order of the
entries is the order in which their keys were first stored.
-/

namespace Turnstile

/-- A finite table whose keys are pairwise distinct. -/
structure Table (α : Type) where
  entries : List (String × α)
  distinct : (entries.map Prod.fst).Nodup

namespace Table

variable {α : Type}

/-- The table without entries. -/
def empty : Table α where
  entries := []
  distinct := by simp

instance : Inhabited (Table α) := ⟨empty⟩

/-- The stored keys. -/
def keys (table : Table α) : List String :=
  table.entries.map Prod.fst

/-- The number of entries. -/
def size (table : Table α) : Nat :=
  table.entries.length

/-- The value of the first entry with the given key. -/
def find (key : String) : List (String × α) → Option α
  | [] => none
  | (stored, value) :: rest => if stored = key then some value else find key rest

/-- The value stored under a key. -/
def get? (table : Table α) (key : String) : Option α :=
  find key table.entries

/-- Replaces the value of a present key, and appends an absent one. -/
def replace (key : String) (value : α) : List (String × α) → List (String × α)
  | [] => [(key, value)]
  | (stored, old) :: rest =>
      if stored = key then (key, value) :: rest
      else (stored, old) :: replace key value rest

theorem map_fst_replace
    (key : String)
    (value : α)
    (entries : List (String × α)) :
    (replace key value entries).map Prod.fst =
      if key ∈ entries.map Prod.fst then entries.map Prod.fst
      else entries.map Prod.fst ++ [key] := by
  induction entries with
  | nil => simp [replace]
  | cons entry rest inductionHypothesis =>
      obtain ⟨stored, old⟩ := entry
      by_cases same : stored = key
      · simp [replace, same]
      · have distinct : key ≠ stored := fun equal => same equal.symm
        by_cases present : key ∈ rest.map Prod.fst
        · simp_all [replace]
        · simp_all [replace]

theorem nodup_replace
    {entries : List (String × α)}
    (distinct : (entries.map Prod.fst).Nodup)
    (key : String)
    (value : α) :
    ((replace key value entries).map Prod.fst).Nodup := by
  rw [map_fst_replace]
  split
  · exact distinct
  · next absent =>
      rw [List.nodup_append]
      refine ⟨distinct, by simp, ?_⟩
      intro stored member other otherMember equal
      rw [List.mem_singleton] at otherMember
      subst otherMember
      subst equal
      exact absent member

/-- Stores a value under a key, in place of any value stored before. -/
def put (table : Table α) (key : String) (value : α) : Table α where
  entries := replace key value table.entries
  distinct := nodup_replace table.distinct key value

/-- The entries that a test keeps. -/
def filter (table : Table α) (keep : String → α → Bool) : Table α where
  entries := table.entries.filter fun entry => keep entry.1 entry.2
  distinct := List.Nodup.sublist
    (List.Sublist.map Prod.fst List.filter_sublist) table.distinct

/-- The table without one key. -/
def erase (table : Table α) (key : String) : Table α :=
  table.filter fun stored _ => stored ≠ key

/-- Whether a key is stored. -/
def contains (table : Table α) (key : String) : Bool :=
  (table.get? key).isSome

@[ext] theorem ext
    {first second : Table α}
    (entries : first.entries = second.entries) : first = second := by
  cases first
  cases second
  cases entries
  rfl

@[simp] theorem get?_empty (key : String) :
    (empty : Table α).get? key = none := rfl

@[simp] theorem size_empty : (empty : Table α).size = 0 := rfl

theorem find_replace_self
    (key : String)
    (value : α)
    (entries : List (String × α)) :
    find key (replace key value entries) = some value := by
  induction entries with
  | nil => simp [replace, find]
  | cons entry rest inductionHypothesis =>
      obtain ⟨stored, old⟩ := entry
      by_cases same : stored = key
      · simp [replace, find, same]
      · simp [replace, find, same, inductionHypothesis]

theorem find_replace_of_ne
    {key other : String}
    (distinct : other ≠ key)
    (value : α)
    (entries : List (String × α)) :
    find other (replace key value entries) = find other entries := by
  induction entries with
  | nil => simp [replace, find, Ne.symm distinct]
  | cons entry rest inductionHypothesis =>
      obtain ⟨stored, old⟩ := entry
      by_cases same : stored = key
      · subst same
        simp [replace, find, Ne.symm distinct]
      · by_cases found : stored = other
        · subst found
          simp [replace, find, same]
        · simp [replace, find, same, found, inductionHypothesis]

/-- A key reads back what was last put under it. -/
@[simp] theorem get?_put_self (table : Table α) (key : String) (value : α) :
    (table.put key value).get? key = some value :=
  find_replace_self key value table.entries

/-- Putting one key leaves every other key as it was. -/
theorem get?_put_of_ne
    (table : Table α)
    {key other : String}
    (distinct : other ≠ key)
    (value : α) :
    (table.put key value).get? other = table.get? other :=
  find_replace_of_ne distinct value table.entries

theorem find_eq_none_of_not_mem
    {key : String}
    {entries : List (String × α)}
    (absent : key ∉ entries.map Prod.fst) : find key entries = none := by
  induction entries with
  | nil => rfl
  | cons entry rest inductionHypothesis =>
      obtain ⟨stored, value⟩ := entry
      simp only [List.map_cons, List.mem_cons, not_or] at absent
      simp [find, Ne.symm absent.1, inductionHypothesis absent.2]

theorem find_filter
    (keep : String → α → Bool)
    (key : String)
    {entries : List (String × α)}
    (distinct : (entries.map Prod.fst).Nodup) :
    find key (entries.filter fun entry => keep entry.1 entry.2) =
      (find key entries).filter (keep key) := by
  induction entries with
  | nil => rfl
  | cons entry rest inductionHypothesis =>
      obtain ⟨stored, value⟩ := entry
      simp only [List.map_cons, List.nodup_cons] at distinct
      have tail := inductionHypothesis distinct.2
      by_cases same : stored = key
      · subst same
        have missing : find stored rest = none :=
          find_eq_none_of_not_mem distinct.1
        by_cases kept : keep stored value = true
        · simp [find, kept, Option.filter]
        · simp [find, kept, tail, missing, Option.filter]
      · by_cases kept : keep stored value = true
        · simp [find, kept, same, tail]
        · simp [find, kept, same, tail]

/-- A filtered table reads a key exactly when the test keeps its value. -/
theorem get?_filter
    (table : Table α)
    (keep : String → α → Bool)
    (key : String) :
    (table.filter keep).get? key = (table.get? key).filter (keep key) :=
  find_filter keep key table.distinct

end Table
end Turnstile
