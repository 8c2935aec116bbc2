import Turnstile.Settings.Config

/-!
# Lists of settings

A list is written as its entries with commas between them.  Blanks around an entry
and pieces that are blank throughout do not count, and apart from these a list is
written in one way only: what may stand between the commas for given entries is said
by `Spells`, and a text is read as the entries that its pieces spell out.
-/

namespace Turnstile
namespace Settings

open Text

/-- The first element of a list that a property fails of. -/
def IsFirstFailing {α : Type} (holds : α → Prop) (list : List α) (element : α) : Prop :=
  ∃ before after, list = before ++ element :: after ∧
    (∀ other ∈ before, holds other) ∧ ¬holds element

theorem isFirstFailing_iff_find?
    {α : Type}
    {holds : α → Prop}
    [DecidablePred holds]
    {list : List α}
    {element : α} :
    IsFirstFailing holds list element ↔
      list.find? (fun element => ¬holds element) = some element := by
  simp only [IsFirstFailing, List.find?_eq_some_iff_append, decide_not, Bool.not_not,
    Bool.not_eq_true', decide_eq_true_eq, decide_eq_false_iff_not]
  constructor
  · rintro ⟨before, after, whole, earlier, fails⟩
    exact ⟨fails, before, after, whole, earlier⟩
  · rintro ⟨fails, before, after, whole, earlier⟩
    exact ⟨before, after, whole, earlier, fails⟩

theorem IsFirstFailing.not_forall
    {α : Type}
    {holds : α → Prop}
    {list : List α}
    {element : α}
    (first : IsFirstFailing holds list element) : ¬∀ other ∈ list, holds other := by
  obtain ⟨before, after, rfl, -, fails⟩ := first
  intro passed
  exact fails (passed element (List.mem_append_right before List.mem_cons_self))

theorem IsFirstFailing.append_right
    {α : Type}
    {holds : α → Prop}
    {list : List α}
    {element : α}
    (first : IsFirstFailing holds list element)
    (later : List α) : IsFirstFailing holds (list ++ later) element := by
  obtain ⟨before, after, whole, earlier, fails⟩ := first
  exact ⟨before, after ++ later, by simp [whole], earlier, fails⟩

theorem IsFirstFailing.append_left
    {α : Type}
    {holds : α → Prop}
    {list : List α}
    {element : α}
    (first : IsFirstFailing holds list element)
    {front : List α}
    (passed : ∀ other ∈ front, holds other) :
    IsFirstFailing holds (front ++ list) element := by
  obtain ⟨before, after, whole, earlier, fails⟩ := first
  refine ⟨front ++ before, after, by simp [whole], ?_, fails⟩
  exact List.forall_mem_append.2 ⟨passed, earlier⟩

/-! ## Entries -/

/-- A text that stands for itself in a list. -/
structure IsEntry (entry : String) : Prop where
  nonempty : entry ≠ ""
  separate : ',' ∉ entry.toList
  trimmed : IsTrimmed entry.toList

/-- A text without anything but blanks. -/
def IsBlankText (text : String) : Prop :=
  ∀ char ∈ text.toList, isBlank char = true

/-- The pieces between the commas of a text and the entries that they spell out:
each entry stands in a piece of its own, in order, with blanks around it, and there
may be blank pieces anywhere. -/
inductive Spells : (pieces entries : List String) → Prop where
  | nil : Spells [] []
  | blank {piece : String} {pieces entries : List String} :
      IsBlankText piece → Spells pieces entries → Spells (piece :: pieces) entries
  | entry {before entry after : String} {pieces entries : List String} :
      IsBlankText before → IsBlankText after → Spells pieces entries →
        Spells ((before ++ entry ++ after) :: pieces) (entry :: entries)

theorem isBlankText_empty : IsBlankText "" := nofun

theorem IsBlankText.comma_not_mem {text : String} (blank : IsBlankText text) :
    ',' ∉ text.toList := by
  intro member
  exact absurd (blank ',' member) (by decide)

/-- Entries spell themselves out. -/
theorem spells_self (entries : List String) : Spells entries entries := by
  induction entries with
  | nil => exact .nil
  | cons entry entries inductionHypothesis =>
      have spelled : Spells (("" ++ entry ++ "") :: entries) (entry :: entries) :=
        .entry isBlankText_empty isBlankText_empty inductionHypothesis
      rwa [String.empty_append, String.append_empty] at spelled

/-! ## Pieces -/

/-- The entry that a piece between commas holds, if it is not blank. -/
def content? (piece : List Char) : Option String :=
  if trim piece = [] then none else some (String.ofList (trim piece))

/-- A list is read piece by piece. -/
theorem readList_eq_filterMap (text : String) :
    readList text = (split ',' text.toList).filterMap content? := by
  rw [readList, listEntries]
  induction split ',' text.toList with
  | nil => rfl
  | cons piece pieces inductionHypothesis =>
      by_cases blank : trim piece = [] <;>
        simp_all [content?]

theorem content?_of_blank {piece : String} (blank : IsBlankText piece) :
    content? piece.toList = none :=
  if_pos (trim_eq_nil_iff.2 blank)

theorem content?_of_surrounded
    {before entry after : String}
    (blankBefore : IsBlankText before)
    (valid : IsEntry entry)
    (blankAfter : IsBlankText after) :
    content? (before ++ entry ++ after).toList = some entry := by
  have nonempty : entry.toList ≠ [] := by
    rw [Ne, String.toList_eq_nil_iff]
    exact valid.nonempty
  rw [content?, String.toList_append, String.toList_append,
    trim_surrounded blankBefore valid.trimmed nonempty blankAfter, if_neg nonempty,
    String.ofList_toList]

theorem isEntry_of_content?
    {piece : List Char}
    (separate : ',' ∉ piece)
    {entry : String}
    (held : content? piece = some entry) : IsEntry entry := by
  obtain ⟨before, after, -, -, whole⟩ := exists_surrounding_blanks piece
  rw [content?] at held
  split at held
  · cases held
  · next nonempty =>
      cases held
      refine ⟨?_, ?_, ?_⟩
      · rwa [Ne, ← String.toList_eq_nil_iff, String.toList_ofList]
      · rw [String.toList_ofList]
        intro member
        apply separate
        rw [whole]
        exact List.mem_append_left after (List.mem_append_right before member)
      · rw [String.toList_ofList]
        exact isTrimmed_trim piece

/-! ## Spelling and reading -/

/-- The pieces of a text spell out the entries that they hold. -/
theorem spells_filterMap_content? (pieces : List (List Char)) :
    Spells (pieces.map String.ofList) (pieces.filterMap content?) := by
  induction pieces with
  | nil => exact .nil
  | cons piece pieces inductionHypothesis =>
      obtain ⟨before, after, blankBefore, blankAfter, whole⟩ :=
        exists_surrounding_blanks piece
      rw [List.map_cons]
      by_cases nothing : trim piece = []
      · have blank : IsBlankText (String.ofList piece) := by
          rwa [IsBlankText, String.toList_ofList, ← trim_eq_nil_iff]
        have held : content? piece = none := if_pos nothing
        rw [List.filterMap_cons_none held]
        exact inductionHypothesis.blank blank
      · have held : content? piece = some (String.ofList (trim piece)) := if_neg nothing
        have text : String.ofList piece =
            String.ofList before ++ String.ofList (trim piece) ++ String.ofList after := by
          rw [← String.ofList_append, ← String.ofList_append, ← whole]
        rw [List.filterMap_cons_some held, text]
        refine inductionHypothesis.entry ?_ ?_
        · rwa [IsBlankText, String.toList_ofList]
        · rwa [IsBlankText, String.toList_ofList]

theorem filterMap_content?_of_spells
    {pieces entries : List String}
    (spelled : Spells pieces entries)
    (valid : ∀ entry ∈ entries, IsEntry entry) :
    (pieces.map String.toList).filterMap content? = entries := by
  induction spelled with
  | nil => rfl
  | blank blank _ inductionHypothesis =>
      rw [List.map_cons, List.filterMap_cons_none (content?_of_blank blank),
        inductionHypothesis valid]
  | entry blankBefore blankAfter _ inductionHypothesis =>
      rw [List.forall_mem_cons] at valid
      rw [List.map_cons,
        List.filterMap_cons_some (content?_of_surrounded blankBefore valid.1 blankAfter),
        inductionHypothesis valid.2]

theorem Spells.comma_not_mem
    {pieces entries : List String}
    (spelled : Spells pieces entries)
    (valid : ∀ entry ∈ entries, IsEntry entry) :
    ∀ piece ∈ pieces, ',' ∉ piece.toList := by
  induction spelled with
  | nil => nofun
  | blank blank _ inductionHypothesis =>
      exact List.forall_mem_cons.2 ⟨blank.comma_not_mem, inductionHypothesis valid⟩
  | entry blankBefore blankAfter _ inductionHypothesis =>
      rw [List.forall_mem_cons] at valid
      refine List.forall_mem_cons.2 ⟨?_, inductionHypothesis valid.2⟩
      rw [String.toList_append, String.toList_append, List.mem_append, List.mem_append,
        not_or, not_or]
      exact ⟨⟨blankBefore.comma_not_mem, valid.1.separate⟩, blankAfter.comma_not_mem⟩

/-- A text is read as the entries that its pieces spell out. -/
theorem readList_of_spells
    {pieces entries : List String}
    (spelled : Spells pieces entries)
    (valid : ∀ entry ∈ entries, IsEntry entry) :
    readList (",".intercalate pieces) = entries := by
  have joined : (",".intercalate pieces).toList =
      join [','] (pieces.map String.toList) := by
    rw [String.toList_intercalate, join_eq_intercalate]
    rfl
  -- no pieces and one empty piece have the same join, and a cut gives back the latter
  by_cases none : pieces = []
  · subst none
    cases spelled
    rfl
  · have separate : ∀ piece ∈ pieces.map String.toList, ',' ∉ piece := by
      rw [List.forall_mem_map]
      exact spelled.comma_not_mem valid
    rw [readList_eq_filterMap, joined, split_join (by simpa using none) separate,
      filterMap_content?_of_spells spelled valid]

/-- Every text consists of pieces that spell out what it is read as. -/
theorem exists_spells_readList (text : String) :
    ∃ pieces, text = ",".intercalate pieces ∧ Spells pieces (readList text) := by
  refine ⟨(split ',' text.toList).map String.ofList, ?_, ?_⟩
  · apply String.toList_inj.1
    rw [String.toList_intercalate, List.map_map]
    have same : String.toList ∘ String.ofList = id :=
      funext fun _ => String.toList_ofList
    rw [same, List.map_id]
    exact (join_eq_intercalate .. ▸ join_split ',' text.toList).symm
  · rw [readList_eq_filterMap]
    exact spells_filterMap_content? _

theorem isEntry_of_mem_readList {text entry : String} (member : entry ∈ readList text) :
    IsEntry entry := by
  rw [readList_eq_filterMap, List.mem_filterMap] at member
  obtain ⟨piece, listed, held⟩ := member
  exact isEntry_of_content? (not_mem_of_mem_split listed) held

/-! ## Paths -/

/-- A text that starts with a slash. -/
def IsPath (text : String) : Prop :=
  text.toList.head? = some '/'

instance : DecidablePred IsPath :=
  fun _ => inferInstanceAs (Decidable (_ = _))

theorem readPaths_eq_ok_iff {text : String} {paths : List String} :
    readPaths text = .ok paths ↔
      (∀ entry ∈ readList text, IsPath entry) ∧ paths = readList text := by
  have accepted : (readList text).find? (fun path => path.toList.head? ≠ some '/') =
      none ↔ ∀ entry ∈ readList text, IsPath entry := by
    simp [IsPath]
  rw [readPaths, ← accepted]
  cases (readList text).find? fun path => path.toList.head? ≠ some '/' with
  | none => simp [eq_comm]
  | some entry => simp

/-- The first entry that is no path is reported. -/
theorem readPaths_eq_error_iff {text : String} {error : ConfigError} :
    readPaths text = .error error ↔
      ∃ entry, IsFirstFailing IsPath (readList text) entry ∧
        error = .relativeExemptPath entry := by
  have first (entry : String) :
      (readList text).find? (fun path => path.toList.head? ≠ some '/') = some entry ↔
        IsFirstFailing IsPath (readList text) entry :=
    isFirstFailing_iff_find?.symm
  rw [readPaths]
  simp only [← first]
  cases (readList text).find? fun path => path.toList.head? ≠ some '/' <;>
    simp [eq_comm]

theorem message_relativeExemptPath (entry : String) :
    (ConfigError.relativeExemptPath entry).message =
      "Configuration error: RATE_LIMIT_EXEMPT_PATHS entry '" ++ entry
        ++ "' must start with '/'" := by
  have message : (ConfigError.relativeExemptPath entry).message =
      "Configuration error: " ++ (Variable.exemptPaths.name ++ " entry '" ++ entry
        ++ "' must start with '/'") := rfl
  have front : "Configuration error: " ++ (Variable.exemptPaths.name ++ " entry '") =
      "Configuration error: RATE_LIMIT_EXEMPT_PATHS entry '" := by
    decide +kernel
  rw [message, ← String.append_assoc, ← String.append_assoc, front]

/-! ## The canonical form -/

/-- A text is read as some entries exactly if they stand for themselves and its pieces
spell them out.  So entries that stand for themselves are read from their join, what
was read is read again from its join, and blanks and blank pieces around entries make
no difference.  A list of paths is that list, unless some entry does not start with a
slash; then the first such entry is reported. -/
theorem lists_have_one_canonical_form (text : String) (entries : List String) :
    (readList text = entries ↔
        (∀ entry ∈ entries, IsEntry entry) ∧
          ∃ pieces, text = ",".intercalate pieces ∧ Spells pieces entries) ∧
      ((∀ entry ∈ entries, IsEntry entry) →
        readList (",".intercalate entries) = entries) ∧
      readList (",".intercalate (readList text)) = readList text ∧
      (∀ paths, readPaths text = .ok paths ↔
        (∀ entry ∈ readList text, IsPath entry) ∧ paths = readList text) ∧
      ∀ error, readPaths text = .error error ↔
        ∃ entry, IsFirstFailing IsPath (readList text) entry ∧
          error = .relativeExemptPath entry ∧
          error.message =
            "Configuration error: RATE_LIMIT_EXEMPT_PATHS entry '" ++ entry
              ++ "' must start with '/'" := by
  refine ⟨⟨?read, ?spelled⟩, readList_of_spells (spells_self entries),
    readList_of_spells (spells_self _) fun _ => isEntry_of_mem_readList,
    fun _ => readPaths_eq_ok_iff, fun error => ?reported⟩
  case read =>
    rintro rfl
    exact ⟨fun _ => isEntry_of_mem_readList, exists_spells_readList text⟩
  case spelled =>
    rintro ⟨valid, pieces, rfl, spelled⟩
    exact readList_of_spells spelled valid
  case reported =>
    rw [readPaths_eq_error_iff]
    constructor
    · rintro ⟨entry, first, rfl⟩
      exact ⟨entry, first, rfl, message_relativeExemptPath entry⟩
    · rintro ⟨entry, first, same, -⟩
      exact ⟨entry, first, same⟩

/-- Wide blanks and empty pieces around two paths, one of which is repeated, do not
count, and of two entries without a slash the first one is reported. -/
theorem scattered_paths_are_read :
    let paths := ["/health", "/a b", "/health"]
    (∀ entry ∈ paths, IsEntry entry) ∧
      readList ",\u3000/health ,, /a b\t,/health" = paths ∧
      readPaths ",\u3000/health ,, /a b\t,/health" = .ok paths ∧
      readPaths "/health, ready,live" = .error (.relativeExemptPath "ready") := by
  intro paths
  have valid : ∀ entry ∈ paths, IsEntry entry := by
    intro entry member
    have same : trim entry.toList = entry.toList := by revert entry; decide +kernel
    exact ⟨by revert entry; decide +kernel, by revert entry; decide +kernel,
      same ▸ isTrimmed_trim entry.toList⟩
  have pieces : Spells ["", "\u3000" ++ "/health" ++ " ", "", " " ++ "/a b" ++ "\t",
      "" ++ "/health" ++ ""] paths := by
    refine .blank ?_ (.entry ?_ ?_ (.blank ?_ (.entry ?_ ?_ (.entry ?_ ?_ .nil)))) <;>
      exact List.all_eq_true.1 (by decide +kernel)
  have read : readList ",\u3000/health ,, /a b\t,/health" = paths :=
    (lists_have_one_canonical_form _ paths).1.2 ⟨valid, _, by decide +kernel, pieces⟩
  refine ⟨valid, read, ?_, ?_⟩
  · refine ((lists_have_one_canonical_form _ paths).2.2.2.1 paths).2 ⟨?_, read.symm⟩
    rw [read]
    decide +kernel
  · refine ((lists_have_one_canonical_form _ paths).2.2.2.2 _).2
      ⟨"ready", isFirstFailing_iff_find?.2 (by decide +kernel), rfl, by decide +kernel⟩

end Settings
end Turnstile
