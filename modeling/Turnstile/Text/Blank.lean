/-!
# Blank characters

The characters with the Unicode property `White_Space`, and trimming by them.
There are 25 of them; a setting or an address may be surrounded by any.
-/

namespace Turnstile
namespace Text

/-- Whether a character has the Unicode property `White_Space`. -/
def isBlank (char : Char) : Bool :=
  let code := char.toNat
  (9 ≤ code && code ≤ 13) || code == 0x20 || code == 0x85 || code == 0xA0
    || code == 0x1680 || (0x2000 ≤ code && code ≤ 0x200A)
    || code == 0x2028 || code == 0x2029 || code == 0x202F
    || code == 0x205F || code == 0x3000

/-- A text without its leading blanks. -/
def trimStart (text : List Char) : List Char :=
  text.dropWhile isBlank

/-- A text without its trailing blanks. -/
def trimEnd (text : List Char) : List Char :=
  (text.reverse.dropWhile isBlank).reverse

/-- A text without its blanks at either end. -/
def trim (text : List Char) : List Char :=
  trimEnd (trimStart text)

/-- A text is trimmed if it neither starts nor ends with a blank. -/
def IsTrimmed (text : List Char) : Prop :=
  (∀ char ∈ text.head?, isBlank char = false) ∧
    ∀ char ∈ text.getLast?, isBlank char = false

instance (text : List Char) : Decidable (IsTrimmed text) :=
  inferInstanceAs (Decidable (_ ∧ _))

/-- A text without blanks is trimmed. -/
theorem isTrimmed_of_forall
    {text : List Char}
    (plain : ∀ char ∈ text, isBlank char = false) : IsTrimmed text :=
  ⟨fun char first => plain char (List.mem_of_mem_head? first),
    fun char last => plain char (List.mem_of_mem_getLast? last)⟩

@[simp] theorem trim_nil : trim [] = [] := rfl

/-- Trimming leaves a trimmed text as it is. -/
theorem trim_eq_self
    {text : List Char}
    (trimmed : IsTrimmed text) : trim text = text := by
  obtain ⟨head, last⟩ := trimmed
  have startKept : trimStart text = text := by
    cases text with
    | nil => rfl
    | cons char rest =>
        have plain : isBlank char = false := head char (by simp)
        simp [trimStart, plain]
  rw [trim, startKept, trimEnd]
  have reversed : text.reverse.dropWhile isBlank = text.reverse := by
    cases equation : text.reverse with
    | nil => rfl
    | cons char rest =>
        have plain : isBlank char = false := by
          apply last char
          rw [← List.head?_reverse, equation]
          simp
        simp [plain]
  rw [reversed, List.reverse_reverse]

theorem trimEnd_append_of_blank
    {blanks : List Char}
    (blank : ∀ char ∈ blanks, isBlank char = true)
    (text : List Char) : trimEnd (text ++ blanks) = trimEnd text := by
  rw [trimEnd, List.reverse_append, List.dropWhile_append_of_pos, trimEnd]
  intro char member
  exact blank char (List.mem_reverse.1 member)

/-- Trimming takes the blanks around a trimmed text away, and nothing else. -/
theorem trim_surrounded
    {before text after : List Char}
    (blankBefore : ∀ char ∈ before, isBlank char = true)
    (trimmed : IsTrimmed text)
    (nonempty : text ≠ [])
    (blankAfter : ∀ char ∈ after, isBlank char = true) :
    trim (before ++ text ++ after) = text := by
  obtain ⟨char, rest, rfl⟩ := List.exists_cons_of_ne_nil nonempty
  have plain : isBlank char = false := trimmed.1 char rfl
  have stays (more : List Char) :
      trimStart (char :: rest ++ more) = char :: rest ++ more := by
    simp [trimStart, plain]
  have kept := trim_eq_self trimmed
  have bare := stays []
  rw [List.append_nil] at bare
  rw [trim, bare] at kept
  rw [List.append_assoc, trim, trimStart, List.dropWhile_append_of_pos blankBefore]
  change trimEnd (trimStart (char :: rest ++ after)) = char :: rest
  rw [stays, trimEnd_append_of_blank blankAfter, kept]

theorem head?_dropWhile_isBlank (text : List Char) :
    ∀ char ∈ (text.dropWhile isBlank).head?, isBlank char = false := by
  induction text with
  | nil => simp
  | cons char rest inductionHypothesis =>
      by_cases blank : isBlank char = true
      · simpa [List.dropWhile_cons, blank] using inductionHypothesis
      · simp [blank]

theorem exists_append_trimStart (text : List Char) :
    ∃ blanks, (∀ char ∈ blanks, isBlank char = true) ∧
      text = blanks ++ trimStart text :=
  ⟨text.takeWhile isBlank, List.all_eq_true.1 List.all_takeWhile,
    List.takeWhile_append_dropWhile.symm⟩

theorem exists_trimEnd_append (text : List Char) :
    ∃ blanks, (∀ char ∈ blanks, isBlank char = true) ∧
      text = trimEnd text ++ blanks := by
  obtain ⟨blanks, blank, equation⟩ := exists_append_trimStart text.reverse
  refine ⟨blanks.reverse, fun char member => blank char (List.mem_reverse.1 member), ?_⟩
  rw [trimEnd, ← List.reverse_append, ← trimStart, ← equation, List.reverse_reverse]

/-- Trimming takes nothing but blanks away. -/
theorem exists_surrounding_blanks (text : List Char) :
    ∃ before after, (∀ char ∈ before, isBlank char = true) ∧
      (∀ char ∈ after, isBlank char = true) ∧ text = before ++ trim text ++ after := by
  obtain ⟨before, blankBefore, start⟩ := exists_append_trimStart text
  obtain ⟨after, blankAfter, rest⟩ := exists_trimEnd_append (trimStart text)
  refine ⟨before, after, blankBefore, blankAfter, ?_⟩
  rw [trim, List.append_assoc, ← rest, ← start]

theorem dropWhile_isBlank_eq_nil_iff {text : List Char} :
    text.dropWhile isBlank = [] ↔ ∀ char ∈ text, isBlank char = true := by
  induction text with
  | nil => simp
  | cons char rest inductionHypothesis =>
      by_cases blank : isBlank char = true
      · simp [blank, inductionHypothesis]
      · simp [blank]

/-- Trimming leaves nothing exactly of a text that is blank throughout. -/
theorem trim_eq_nil_iff {text : List Char} :
    trim text = [] ↔ ∀ char ∈ text, isBlank char = true := by
  rw [← dropWhile_isBlank_eq_nil_iff, trim, trimEnd, List.reverse_eq_nil_iff,
    dropWhile_isBlank_eq_nil_iff, trimStart]
  constructor
  · intro blank
    -- What is left at the start begins with no blank, so it is nothing.
    cases kept : text.dropWhile isBlank with
    | nil => rfl
    | cons char rest =>
        have plain : isBlank char = false :=
          head?_dropWhile_isBlank text char (by simp [kept])
        have claimed := blank char (by simp [kept])
        rw [plain] at claimed
        cases claimed
  · intro blank
    simp [blank]

/-- What trimming leaves neither starts nor ends with a blank. -/
theorem isTrimmed_trim (text : List Char) : IsTrimmed (trim text) := by
  constructor
  · obtain ⟨blanks, -, equation⟩ := exists_trimEnd_append (trimStart text)
    have heads := head?_dropWhile_isBlank text
    change ∀ char ∈ (trimStart text).head?, isBlank char = false at heads
    intro char member
    apply heads char
    rw [equation]
    change char ∈ (trimEnd (trimStart text)).head? at member
    cases kept : trimEnd (trimStart text) with
    | nil => simp [kept] at member
    | cons first rest => simpa [kept] using member
  · intro char member
    change char ∈ (trimEnd (trimStart text)).getLast? at member
    rw [trimEnd, List.getLast?_reverse] at member
    exact head?_dropWhile_isBlank _ char member

end Text
end Turnstile
