import Mathlib.Data.List.Nodup
import Turnstile.Proofs.Json.Values
import Turnstile.Report

/-!
# Written records

An object whose fields are written one after the other, under distinct names, is
read as the record of those fields.  One step of the reader takes one written
field, and the whole object is read by induction on the fields that are left.

The statistics that the service answers with are such an object.
-/

namespace Turnstile
namespace Json

/-- A field that is read back from its written form, whatever the object around it
goes on with. -/
structure Entry where
  name : String
  kind : Kind
  written : String
  value : Value
  reads (rest : List Char) :
    EndsValue rest → readValue kind (written.toList ++ rest) = .ok (value, rest)

namespace Entry

/-- A field that holds a string. -/
def text (name content : String) : Entry where
  name := name
  kind := .text
  written := writeString content
  value := .text content.toList
  reads rest _ := by
    rw [readValue, readText_writeString]
    rfl

/-- A field that holds a truth value. -/
def flag (name : String) (flag : Bool) : Entry where
  name := name
  kind := .flag
  written := writeFlag flag
  value := .flag flag
  reads rest _ := by
    rw [readValue, readFlag_writeFlag]
    rfl

/-- A field that holds a natural number below a bound of at most 64 bits. -/
def natural
    (name : String)
    {bound number : Nat}
    (below : number < bound)
    (fits : bound ≤ UInt64.size) : Entry where
  name := name
  kind := .natural bound
  written := Text.decimalText number
  value := .natural number
  reads rest ended := by
    rw [readValue, readNatural_decimalText below fits ended]
    rfl

/-- What the field looks like inside an object. -/
def member (entry : Entry) : List Char :=
  (writeString entry.name).toList ++ ':' :: entry.written.toList

/-- What the field looks like once it has been read. -/
def found (entry : Entry) : String × Value :=
  (entry.name, entry.value)

/-- What the reader has to know of the field. -/
def field (entry : Entry) : String × Kind :=
  (entry.name, entry.kind)

end Entry

/-- What stands before a field, which may be the first one of its object. -/
def separator (isFirst : Bool) : List Char :=
  if isFirst then [] else [',']

/-- The text of an object from some field on, up to its closing brace. -/
def membersText : (isFirst : Bool) → List Entry → List Char
  | _, [] => []
  | isFirst, entry :: entries =>
      separator isFirst ++ entry.member ++ membersText false entries

/-! ## One field -/

theorem nextName_separator (isFirst : Bool) (rest : List Char) :
    nextName isFirst (separator isFirst ++ '"' :: rest) = .ok (true, '"' :: rest) := by
  cases isFirst <;> rfl

theorem nextName_brace (isFirst : Bool) (rest : List Char) :
    nextName isFirst ('}' :: rest) = .ok (false, '}' :: rest) := by
  cases isFirst <;> rfl

/-- One step of the reader takes one field that the schema knows and that has not
been found yet. -/
theorem readMembers_member
    {schema : Schema}
    {entry : Entry}
    (known : schema.lookup entry.name = some entry.kind)
    {found : List (String × Value)}
    (fresh : found.lookup entry.name = none)
    {rest : List Char}
    (ended : EndsValue rest)
    (fuel : Nat)
    (isFirst : Bool) :
    readMembers schema (fuel + 1) isFirst found
        (separator isFirst ++ entry.member ++ rest) =
      readMembers schema fuel false (entry.found :: found) rest := by
  have text : separator isFirst ++ entry.member ++ rest =
      separator isFirst ++ '"' :: (entry.name.toList.flatMap writeChar ++
        '"' :: ':' :: (entry.written.toList ++ rest)) := by
    rw [Entry.member, List.append_assoc, List.append_assoc, List.cons_append,
      toList_writeString_append]
  have colon (tail : List Char) : readColon (':' :: tail) = .ok tail := rfl
  rw [text, readMembers, nextName_separator, ok_bind]
  simp only [Bool.not_true, Bool.false_eq_true, if_false, List.drop_one, List.tail_cons,
    scanString_flatMap_writeChar, ok_bind, String.ofList_toList, known, fresh,
    Option.isSome_none, colon, entry.reads rest ended]
  rfl

/-! ## All fields -/

theorem endsValue_membersText (entries : List Entry) (rest : List Char) :
    EndsValue (membersText false entries ++ '}' :: rest) := by
  cases entries with
  | nil => exact ⟨rest, .inr rfl⟩
  | cons => exact ⟨_, .inl rfl⟩

theorem readMembers_membersText
    {schema : Schema}
    {entries : List Entry}
    (known : ∀ entry ∈ entries, schema.lookup entry.name = some entry.kind)
    (distinct : (entries.map Entry.name).Nodup)
    {found : List (String × Value)}
    (fresh : ∀ entry ∈ entries, found.lookup entry.name = none)
    {fuel : Nat}
    (enough : entries.length < fuel)
    (isFirst : Bool)
    (rest : List Char) :
    readMembers schema fuel isFirst found
        (membersText isFirst entries ++ '}' :: rest) =
      .ok ((entries.map Entry.found).reverse ++ found, '}' :: rest) := by
  induction entries generalizing found fuel isFirst with
  | nil =>
      obtain ⟨fuel, rfl⟩ := Nat.exists_eq_add_one.2 enough
      rw [membersText, List.nil_append, readMembers, nextName_brace]
      rfl
  | cons entry entries inductionHypothesis =>
      obtain ⟨fuel, rfl⟩ := Nat.exists_eq_add_one.2 (Nat.zero_lt_of_lt enough)
      rw [List.forall_mem_cons] at known fresh
      rw [List.map_cons, List.nodup_cons] at distinct
      have stillFresh (other : Entry) (later : other ∈ entries) :
          (entry.found :: found).lookup other.name = none := by
        have apart : other.name ≠ entry.name := by
          intro same
          exact distinct.1 (same ▸ List.mem_map_of_mem later)
        rw [List.lookup_cons, Entry.found, beq_false_of_ne apart]
        exact fresh.2 other later
      rw [membersText, List.append_assoc,
        readMembers_member known.1 fresh.1 (endsValue_membersText entries rest),
        inductionHypothesis known.2 distinct.2 stillFresh
          (Nat.lt_of_succ_lt_succ enough)]
      simp

/-! ## Records -/

theorem intercalate_member (entries : List Entry) :
    [','].intercalate (entries.map Entry.member) = membersText true entries := by
  induction entries with
  | nil => rfl
  | cons entry entries inductionHypothesis =>
      cases entries with
      | nil => simp [membersText, separator]
      | cons next entries =>
          rw [List.map_cons, List.map_cons, List.intercalate_cons_cons,
            ← List.map_cons, inductionHypothesis]
          simp [membersText, separator]

theorem toList_writeObject (entries : List Entry) :
    (writeObject (entries.map fun entry => (entry.name, entry.written))).toList =
      '{' :: (membersText true entries ++ ['}']) := by
  have members : ((entries.map fun entry => (entry.name, entry.written)).map
      fun field => writeString field.1 ++ ":" ++ field.2).map String.toList =
        entries.map Entry.member := by
    simp [Entry.member, Function.comp_def]
  rw [writeObject, String.toList_append, String.toList_append,
    String.toList_intercalate, members]
  exact congrArg (fun text => '{' :: (text ++ ['}'])) (intercalate_member entries)

/-- What is listed under distinct names is found under each of them. -/
theorem lookup_name
    {β : Type}
    (content : Entry → β)
    {entries : List Entry}
    (distinct : (entries.map Entry.name).Nodup)
    {entry : Entry}
    (member : entry ∈ entries) :
    (entries.map fun entry => (entry.name, content entry)).lookup entry.name =
      some (content entry) := by
  obtain ⟨before, after, rfl⟩ := List.append_of_mem member
  refine List.lookup_eq_some_iff.2
    ⟨before.map fun entry => (entry.name, content entry), _, List.map_append, ?_⟩
  intro listed earlier
  obtain ⟨other, among, rfl⟩ := List.mem_map.1 earlier
  rw [List.map_append, List.map_cons, List.nodup_append] at distinct
  refine bne_iff_ne.2 (Ne.symm ?_)
  exact distinct.2.2 other.name (List.mem_map_of_mem among) entry.name
    List.mem_cons_self

theorem collect_of_lookup
    {entries : List Entry}
    {found : List (String × Value)}
    (present : ∀ entry ∈ entries, found.lookup entry.name = some entry.value) :
    collect (entries.map Entry.field) found = some (entries.map Entry.value) := by
  induction entries with
  | nil => rfl
  | cons entry entries inductionHypothesis =>
      rw [List.forall_mem_cons] at present
      have others := inductionHypothesis present.2
      rw [collect] at others ⊢
      rw [List.map_cons, List.mapM_cons, Entry.field, present.1, others]
      rfl

theorem length_le_membersText (isFirst : Bool) (entries : List Entry) :
    entries.length ≤ (membersText isFirst entries).length := by
  induction entries generalizing isFirst with
  | nil => exact Nat.zero_le _
  | cons entry entries inductionHypothesis =>
      have others := inductionHypothesis false
      simp only [membersText, Entry.member, List.length_append, List.length_cons]
      omega

/-- Fields under distinct names that are written as an object are read back as the
record of their values. -/
theorem readRecord_writeObject
    {entries : List Entry}
    (distinct : (entries.map Entry.name).Nodup) :
    readRecord (entries.map Entry.field)
        (writeObject (entries.map fun entry => (entry.name, entry.written))) =
      .ok (entries.map Entry.value) := by
  have known : ∀ entry ∈ entries,
      (entries.map Entry.field).lookup entry.name = some entry.kind :=
    fun _ member => lookup_name Entry.kind distinct member
  have enough : entries.length < (membersText true entries ++ ['}']).length + 1 := by
    have shorter := length_le_membersText true entries
    rw [List.length_append]
    omega
  have read := readMembers_membersText known distinct
    (fun _ _ => List.lookup_nil) enough true []
  have present : ∀ entry ∈ entries,
      (entries.map Entry.found).reverse.lookup entry.name = some entry.value := by
    intro entry member
    rw [← List.map_reverse]
    refine lookup_name Entry.value ?_ (List.mem_reverse.2 member)
    rwa [List.map_reverse, List.nodup_reverse]
  rw [readRecord, toList_writeObject, skipSpace_cons (by decide)]
  simp only [read, ok_bind, List.append_nil, collect_of_lookup present]
  rfl

end Json

/-! ## Statistics -/

namespace StatsReport

open Json

/-- Figures that fit the fields that they are written to. -/
structure Fits (report : StatsReport) : Prop where
  trackedClients : report.trackedClients < UInt64.size
  capacity : report.capacity < UInt32.size
  refillRate : report.refillRate < UInt32.size
  refillIntervalMs : report.refillIntervalMs < UInt64.size
  uptimeSeconds : report.uptimeSeconds < UInt64.size

/-- The fields of a report. -/
def entries {report : StatsReport} (fits : report.Fits) : List Entry :=
  [.flag "rate_limiting_enabled" report.isLimiting,
    .natural "tracked_clients" fits.trackedClients (Nat.le_refl _),
    .natural "capacity" fits.capacity (by decide),
    .natural "refill_rate" fits.refillRate (by decide),
    .natural "refill_interval_ms" fits.refillIntervalMs (Nat.le_refl _),
    .natural "uptime_seconds" fits.uptimeSeconds (Nat.le_refl _)]

/-- A report is read back from its written form. -/
theorem read_write {report : StatsReport} (fits : report.Fits) :
    read report.write = .ok report := by
  have distinct : ((entries fits).map Entry.name).Nodup := by
    change (schema.map Prod.fst).Nodup
    decide
  have known : schema = (entries fits).map Entry.field := rfl
  have written : report.write =
      writeObject ((entries fits).map fun entry => (entry.name, entry.written)) := rfl
  rw [read, known, written, readRecord_writeObject distinct, ok_bind]
  rfl

end StatsReport
end Turnstile
