/-!
# Separated fields

A text cut at every occurrence of a separator, and the pieces put together
again.  Cutting and joining are inverse to each other on pieces that do not
contain the separator.
-/

namespace Turnstile
namespace Text

/-- Cuts a text at every separator; there is always at least one piece. -/
def split (separator : Char) : List Char → List (List Char)
  | [] => [[]]
  | char :: rest =>
      if char = separator then [] :: split separator rest
      else
        match split separator rest with
        | [] => [[char]]
        | piece :: pieces => (char :: piece) :: pieces

/-- Puts pieces together with a separator between neighbours. -/
def join (separator : List Char) : List (List Char) → List Char
  | [] => []
  | [piece] => piece
  | piece :: pieces => piece ++ separator ++ join separator pieces

/-- Cuts a text at its first separator, if it has one. -/
def splitOnce (separator : Char) : List Char → Option (List Char × List Char)
  | [] => none
  | char :: rest =>
      if char = separator then some ([], rest)
      else (splitOnce separator rest).map fun (before, after) =>
        (char :: before, after)

theorem split_ne_nil (separator : Char) (text : List Char) :
    split separator text ≠ [] := by
  cases text with
  | nil => simp [split]
  | cons char rest =>
      rw [split]
      split
      · simp
      · split <;> simp

theorem join_cons
    (separator piece : List Char)
    {pieces : List (List Char)}
    (nonempty : pieces ≠ []) :
    join separator (piece :: pieces) =
      piece ++ separator ++ join separator pieces := by
  cases pieces with
  | nil => exact absurd rfl nonempty
  | cons next rest => rfl

/-- Joining what was cut gives the text back. -/
theorem join_split (separator : Char) (text : List Char) :
    join [separator] (split separator text) = text := by
  induction text with
  | nil => rfl
  | cons char rest inductionHypothesis =>
      rw [split]
      split
      · next same =>
          rw [join_cons _ _ (split_ne_nil separator rest), inductionHypothesis,
            same]
          rfl
      · cases pieces : split separator rest with
        | nil => exact absurd pieces (split_ne_nil separator rest)
        | cons piece others =>
            rw [pieces] at inductionHypothesis
            cases others with
            | nil => simpa [join] using inductionHypothesis
            | cons next more => simpa [join] using inductionHypothesis

theorem not_mem_of_mem_split
    {separator : Char}
    {text piece : List Char}
    (listed : piece ∈ split separator text) : separator ∉ piece := by
  induction text generalizing piece with
  | nil =>
      rw [split, List.mem_singleton] at listed
      simp [listed]
  | cons char rest inductionHypothesis =>
      obtain ⟨first, others, cut⟩ :=
        List.exists_cons_of_ne_nil (split_ne_nil separator rest)
      rw [split, cut] at listed
      rw [cut] at inductionHypothesis
      split at listed
      · obtain rfl | later := List.mem_cons.1 listed
        · exact List.not_mem_nil
        · exact inductionHypothesis later
      · next other =>
          obtain rfl | later := List.mem_cons.1 listed
          · exact List.not_mem_cons_of_ne_of_not_mem (Ne.symm other)
              (inductionHypothesis List.mem_cons_self)
          · exact inductionHypothesis (List.mem_cons_of_mem _ later)

/-- There is one more piece than there are separators. -/
theorem length_split (separator : Char) (text : List Char) :
    (split separator text).length = text.count separator + 1 := by
  induction text with
  | nil => rfl
  | cons char rest inductionHypothesis =>
      obtain ⟨first, others, cut⟩ :=
        List.exists_cons_of_ne_nil (split_ne_nil separator rest)
      rw [cut] at inductionHypothesis
      rw [split, cut, List.count_cons]
      by_cases same : char = separator
      · simpa [same] using inductionHypothesis
      · simpa [same] using inductionHypothesis

/-- Joining by one separator is the library's intercalation. -/
theorem join_eq_intercalate (separator : List Char) (pieces : List (List Char)) :
    join separator pieces = separator.intercalate pieces := by
  induction pieces with
  | nil => rfl
  | cons piece rest inductionHypothesis =>
      cases rest with
      | nil => simp [join]
      | cons next more =>
          rw [join, inductionHypothesis, List.intercalate_cons_cons]
          exact fun empty => nomatch empty

/-- The first piece ends before the first separator. -/
theorem head?_split (separator : Char) (text : List Char) :
    (split separator text).head? = some (text.takeWhile (· ≠ separator)) := by
  induction text with
  | nil => rfl
  | cons char rest inductionHypothesis =>
      by_cases same : char = separator
      · rw [split, if_pos same, List.takeWhile_cons_of_neg (by simpa using same)]
        rfl
      · obtain ⟨piece, pieces, cut⟩ :=
          List.exists_cons_of_ne_nil (split_ne_nil separator rest)
        rw [cut, List.head?_cons, Option.some.injEq] at inductionHypothesis
        rw [split, if_neg same, cut, List.takeWhile_cons_of_pos (by simpa using same),
          ← inductionHypothesis]
        rfl

/-- A text without the separator is one piece. -/
theorem split_of_not_mem
    {separator : Char}
    {text : List Char}
    (absent : separator ∉ text) : split separator text = [text] := by
  induction text with
  | nil => rfl
  | cons char rest inductionHypothesis =>
      simp only [List.mem_cons, not_or] at absent
      rw [split, if_neg (Ne.symm absent.1), inductionHypothesis absent.2]

/-- The text before the first separator is the first piece. -/
theorem split_append_cons
    {separator : Char}
    {piece : List Char}
    (absent : separator ∉ piece)
    (text : List Char) :
    split separator (piece ++ separator :: text) =
      piece :: split separator text := by
  induction piece with
  | nil => simp [split]
  | cons char rest inductionHypothesis =>
      simp only [List.mem_cons, not_or] at absent
      rw [List.cons_append, split, if_neg (Ne.symm absent.1),
        inductionHypothesis absent.2]

/-- Cutting joined pieces gives the pieces back if none holds the separator. -/
theorem split_join
    {separator : Char}
    {pieces : List (List Char)}
    (nonempty : pieces ≠ [])
    (absent : ∀ piece ∈ pieces, separator ∉ piece) :
    split separator (join [separator] pieces) = pieces := by
  induction pieces with
  | nil => exact absurd rfl nonempty
  | cons piece rest inductionHypothesis =>
      have pieceAbsent : separator ∉ piece := absent piece (by simp)
      cases rest with
      | nil => exact split_of_not_mem pieceAbsent
      | cons next more =>
          rw [join_cons _ _ (by simp), List.append_assoc, List.singleton_append,
            split_append_cons pieceAbsent,
            inductionHypothesis (by simp) (fun other member =>
              absent other (by simp [member]))]

theorem mem_of_mem_join
    {separator : List Char}
    {pieces : List (List Char)}
    {char : Char}
    (member : char ∈ join separator pieces) :
    char ∈ separator ∨ ∃ piece ∈ pieces, char ∈ piece := by
  induction pieces with
  | nil => cases member
  | cons piece rest inductionHypothesis =>
      cases rest with
      | nil => exact .inr ⟨piece, List.mem_cons_self, member⟩
      | cons next more =>
          rw [join_cons _ _ (by simp), List.mem_append, List.mem_append] at member
          obtain (inside | between) | later := member
          · exact .inr ⟨piece, List.mem_cons_self, inside⟩
          · exact .inl between
          · obtain between | ⟨other, listed, inside⟩ := inductionHypothesis later
            · exact .inl between
            · exact .inr ⟨other, List.mem_cons_of_mem _ listed, inside⟩

/-- Each character of a text is the separator or stands in a piece. -/
theorem mem_split
    (separator : Char)
    {char : Char}
    {text : List Char}
    (member : char ∈ text) :
    char = separator ∨ ∃ piece ∈ split separator text, char ∈ piece := by
  rw [← join_split separator text] at member
  exact (mem_of_mem_join member).imp_left List.mem_singleton.1

theorem splitOnce_of_not_mem
    {separator : Char}
    {text : List Char}
    (absent : separator ∉ text) : splitOnce separator text = none := by
  induction text with
  | nil => rfl
  | cons char rest inductionHypothesis =>
      rw [List.mem_cons, not_or] at absent
      rw [splitOnce, if_neg (Ne.symm absent.1), inductionHypothesis absent.2]
      rfl

/-- A text is cut where its first separator stands. -/
theorem splitOnce_append_cons
    {separator : Char}
    {before : List Char}
    (absent : separator ∉ before)
    (after : List Char) :
    splitOnce separator (before ++ separator :: after) =
      some (before, after) := by
  induction before with
  | nil => exact if_pos rfl
  | cons char rest inductionHypothesis =>
      rw [List.mem_cons, not_or] at absent
      rw [List.cons_append, splitOnce, if_neg (Ne.symm absent.1),
        inductionHypothesis absent.2]
      rfl

theorem eq_append_of_splitOnce
    {separator : Char}
    {text before after : List Char}
    (cut : splitOnce separator text = some (before, after)) :
    text = before ++ separator :: after := by
  induction text generalizing before with
  | nil => cases cut
  | cons char rest inductionHypothesis =>
      rw [splitOnce] at cut
      split at cut
      · next same =>
          cases cut
          rw [same]
          rfl
      · rw [Option.map_eq_some_iff] at cut
        obtain ⟨⟨first, last⟩, cut, paired⟩ := cut
        cases paired
        rw [inductionHypothesis cut]
        rfl

end Text
end Turnstile
