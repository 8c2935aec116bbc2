import Turnstile.Net.Address
import Turnstile.Text.Blank

/-!
# What address texts are made of

The texts that are read as addresses are more than those that are printed, but all
of them are made of hexadecimal digits, points and colons.  They hold no blank and
no stroke, so that an address can be told from what surrounds it.

Only an IPv6 address has colons, and it always does: without them there are two
groups at most.  No text is thus an address of both families.
-/

namespace Turnstile
namespace Text

/-- The digits are the characters of three ranges, in which there is no blank. -/
theorem isBlank_of_digit?
    {base digit : Nat}
    {char : Char}
    (read : digit? base char = some digit) : isBlank char = false := by
  have ranges : (48 ≤ char.toNat ∧ char.toNat ≤ 57) ∨
      (97 ≤ char.toNat ∧ char.toNat ≤ 102) ∨
      (65 ≤ char.toNat ∧ char.toNat ≤ 70) := by
    obtain ⟨found, -⟩ := Option.filter_eq_some_iff.1 read
    split at found
    · next decimal => exact .inl decimal
    · split at found
      · next lower => exact .inr (.inl lower)
      · split at found
        · next upper => exact .inr (.inr upper)
        · cases found
  simp only [isBlank, Bool.or_eq_false_iff, Bool.and_eq_false_iff, beq_eq_false_iff_ne,
    decide_eq_false_iff_not]
  omega

end Text

namespace Net
namespace Address

open Text

/-- Whether a character can stand in the text of an address. -/
def isPart (char : Char) : Bool :=
  (digit? 16 char).isSome || char == '.' || char == ':'

theorem isPart_of_digit?
    {base : Nat}
    (small : base ≤ 16)
    {char : Char}
    (digit : (digit? base char).isSome = true) : isPart char = true := by
  obtain ⟨value, known⟩ := Option.isSome_iff_exists.1 digit
  rw [isPart, digit?_of_le small known]
  rfl

theorem digit_of_readShort?
    {base count number : Nat}
    {text : List Char}
    (read : readShort? base count text = some number) :
    ∀ char ∈ text, (digit? base char).isSome = true := by
  rw [readShort?] at read
  split at read
  · exact forall_digit_of_readNumeral? read
  · cases read

theorem isPart_of_readGroup?
    {text : List Char}
    {group : Nat}
    (read : readGroup? text = some group) :
    ∀ char ∈ text, isPart char = true :=
  fun char member =>
    isPart_of_digit? (Nat.le_refl 16) (digit_of_readShort? read char member)

/-! ## IPv4 -/

theorem digit_of_readOctet?
    {text : List Char}
    {octet : Nat}
    (read : readOctet? text = some octet) :
    ∀ char ∈ text, (digit? 10 char).isSome = true := by
  rw [readOctet?] at read
  split at read
  · cases read
  · exact digit_of_readShort? (Option.filter_eq_some_iff.1 read).1

theorem forall_of_mapM_eq_some
    {α β : Type}
    {read : β → Option α}
    {texts : List β}
    {values : List α}
    (all : texts.mapM read = some values) :
    ∀ text ∈ texts, ∃ value, read text = some value := by
  induction texts generalizing values with
  | nil => simp
  | cons text rest inductionHypothesis =>
      rw [List.mapM_cons, Option.bind_eq_bind, Option.bind_eq_some_iff] at all
      obtain ⟨value, first, all⟩ := all
      rw [Option.bind_eq_bind, Option.bind_eq_some_iff] at all
      obtain ⟨others, later, -⟩ := all
      exact List.forall_mem_cons.2 ⟨⟨value, first⟩, inductionHypothesis later⟩

/-- An IPv4 address is written with decimal digits and points. -/
theorem digit_of_readV4?
    {text : List Char}
    {bits : BitVec 32}
    (read : readV4? text = some bits) :
    ∀ char ∈ text, char = '.' ∨ (digit? 10 char).isSome = true := by
  cases octets : (split '.' text).mapM readOctet? with
  | none =>
      rw [readV4?, octets] at read
      cases read
  | some values =>
      intro char member
      obtain point | ⟨piece, listed, inside⟩ := mem_split '.' member
      · exact .inl point
      · obtain ⟨octet, known⟩ := forall_of_mapM_eq_some octets piece listed
        exact .inr (digit_of_readOctet? known char inside)

theorem isPart_of_readV4?
    {text : List Char}
    {bits : BitVec 32}
    (read : readV4? text = some bits) : ∀ char ∈ text, isPart char = true := by
  intro char member
  obtain rfl | digit := digit_of_readV4? read char member
  · rfl
  · exact isPart_of_digit? (by decide) digit

/-! ## IPv6 -/

theorem eq_append_of_splitGap
    {text before after : List Char}
    (cut : splitGap text = some (before, after)) :
    text = before ++ ':' :: ':' :: after := by
  induction text using splitGap.induct generalizing before with
  | case1 rest =>
      cases cut
      rfl
  | case2 char rest noGap inductionHypothesis =>
      rw [splitGap.eq_2 _ _ noGap, Option.map_eq_some_iff] at cut
      obtain ⟨⟨first, last⟩, cut, paired⟩ := cut
      cases paired
      rw [inductionHypothesis cut]
      rfl
  | case3 => cases cut

/-- Only the last piece can be other than a group. -/
theorem readPieces?_cons_cons
    (piece next : List Char)
    (pieces : List (List Char)) :
    readPieces? (piece :: next :: pieces) =
      (readGroup? piece).bind fun group =>
        (readPieces? (next :: pieces)).bind fun groups => some (group :: groups) :=
  rfl

theorem isPart_of_readPieces?
    {pieces : List (List Char)}
    {groups : List Nat}
    (read : readPieces? pieces = some groups) :
    ∀ piece ∈ pieces, ∀ char ∈ piece, isPart char = true := by
  induction pieces using readPieces?.induct generalizing groups with
  | case1 => simp
  | case2 piece group known =>
      rw [List.forall_mem_singleton]
      exact isPart_of_readGroup? known
  | case3 piece noGroup =>
      rw [readPieces?, noGroup, Option.map_eq_some_iff] at read
      obtain ⟨bits, known, -⟩ := read
      rw [List.forall_mem_singleton]
      exact isPart_of_readV4? known
  | case4 piece pieces more inductionHypothesis =>
      obtain ⟨next, others, rfl⟩ := List.exists_cons_of_ne_nil fun empty => more empty
      rw [readPieces?_cons_cons, Option.bind_eq_some_iff] at read
      obtain ⟨group, known, read⟩ := read
      obtain ⟨later, rest, -⟩ := Option.bind_eq_some_iff.1 read
      exact List.forall_mem_cons.2
        ⟨isPart_of_readGroup? known, inductionHypothesis rest⟩

theorem mem_pieces
    {text : List Char}
    {char : Char}
    (member : char ∈ text) :
    char = ':' ∨ ∃ piece ∈ pieces text, char ∈ piece := by
  rw [pieces, if_neg (by simpa using List.ne_nil_of_mem member)]
  exact mem_split ':' member

theorem isPart_of_pieces
    {text : List Char}
    (parts : ∀ piece ∈ pieces text, ∀ char ∈ piece, isPart char = true) :
    ∀ char ∈ text, isPart char = true := by
  intro char member
  obtain rfl | ⟨piece, listed, inside⟩ := mem_pieces member
  · rfl
  · exact parts piece listed char inside

theorem isPart_of_readGroups?
    {text : List Char}
    {groups : List Nat}
    (read : readGroups? text = some groups) :
    ∀ char ∈ text, isPart char = true := by
  cases cut : splitGap text with
  | none =>
      simp only [readGroups?, cut] at read
      exact isPart_of_pieces
        (isPart_of_readPieces? (Option.filter_eq_some_iff.1 read).1)
  | some sides =>
      obtain ⟨before, after⟩ := sides
      simp only [readGroups?, cut, Option.bind_eq_bind, Option.bind_eq_some_iff] at read
      obtain ⟨head, readHead, tail, readTail, -⟩ := read
      have first : ∀ char ∈ before, isPart char = true := by
        apply isPart_of_pieces
        intro piece listed
        obtain ⟨group, known⟩ := forall_of_mapM_eq_some readHead piece listed
        exact isPart_of_readGroup? known
      have last : ∀ char ∈ after, isPart char = true :=
        isPart_of_pieces (isPart_of_readPieces? readTail)
      rw [eq_append_of_splitGap cut]
      simp only [List.forall_mem_append, List.forall_mem_cons]
      exact ⟨first, rfl, rfl, last⟩

/-! ## Both families -/

/-- Only hexadecimal digits, points and colons stand in the text of an address. -/
theorem isPart_of_read?
    {text : List Char}
    {address : Address}
    (read : read? text = some address) :
    ∀ char ∈ text, isPart char = true := by
  cases dotted : readV4? text with
  | some bits => exact isPart_of_readV4? dotted
  | none =>
      simp only [read?, dotted, Option.map_eq_some_iff, readV6?] at read
      obtain ⟨bits, ⟨groups, known, -⟩, -⟩ := read
      exact isPart_of_readGroups? known

theorem length_of_readPieces?_singleton
    {piece : List Char}
    {groups : List Nat}
    (read : readPieces? [piece] = some groups) : groups.length ≤ 2 := by
  rw [readPieces?] at read
  split at read
  · cases read
    exact Nat.le_succ 1
  · obtain ⟨bits, -, rfl⟩ := Option.map_eq_some_iff.1 read
    exact Nat.le_of_eq (length_toDigits ..)

/-- A text without colons has too few groups for an IPv6 address. -/
theorem colon_mem_of_readV6?
    {text : List Char}
    {bits : BitVec 128}
    (read : readV6? text = some bits) : ':' ∈ text := by
  rw [readV6?, Option.map_eq_some_iff] at read
  obtain ⟨groups, read, -⟩ := read
  cases cut : splitGap text with
  | some sides =>
      rw [eq_append_of_splitGap cut]
      simp
  | none =>
      by_cases colon : ':' ∈ text
      · exact colon
      · simp only [readGroups?, cut, pieces, split_of_not_mem colon] at read
        obtain ⟨known, eight⟩ := Option.filter_eq_some_iff.1 read
        split at known
        · cases known
          cases eight
        · have few := length_of_readPieces?_singleton known
          have eight := of_decide_eq_true eight
          omega

/-- No text is an address of both families. -/
theorem readV4?_eq_none_of_readV6?
    {text : List Char}
    {bits : BitVec 128}
    (read : readV6? text = some bits) : readV4? text = none := by
  cases dotted : readV4? text with
  | none => rfl
  | some other =>
      have colon := digit_of_readV4? dotted ':' (colon_mem_of_readV6? read)
      exact absurd colon (by decide)

/-- No address has an empty text. -/
theorem read?_nil : read? [] = none := by
  decide

theorem isBlank_of_isPart {char : Char} (part : isPart char = true) :
    isBlank char = false := by
  rw [isPart, Bool.or_eq_true, Bool.or_eq_true, beq_iff_eq, beq_iff_eq] at part
  obtain (digit | rfl) | rfl := part
  · obtain ⟨value, known⟩ := Option.isSome_iff_exists.1 digit
    exact isBlank_of_digit? known
  · rfl
  · rfl

theorem isBlank_of_read?
    {text : List Char}
    {address : Address}
    (read : read? text = some address) : ∀ char ∈ text, isBlank char = false :=
  fun char member => isBlank_of_isPart (isPart_of_read? read char member)

end Address
end Net
end Turnstile
