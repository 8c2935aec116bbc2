import Mathlib.Algebra.Group.Nat.Defs
import Turnstile.Proofs.Net.AddressParts

/-!
# Printed addresses

The printed text of an address reads back as that address, in both families.  For
IPv6 this rests on three facts: single colons between groups are never taken for
the gap, so that reading cuts where printing left groups out; the run left out
consists of zero groups; and an IPv4-mapped address has the groups that its dotted
tail stands for.
-/

namespace Turnstile

namespace Text

/-- A number below a power of the base has no more digits than the exponent. -/
theorem length_numeral_le
    {base count number : Nat}
    (positive : 0 < count)
    (fits : number < base ^ count) : (numeral base number).length ≤ count := by
  induction count generalizing number with
  | zero => exact absurd positive (Nat.lt_irrefl 0)
  | succ count inductionHypothesis =>
      rw [numeral]
      split
      · simp
      · next big =>
          have leading : 0 < count := by
            rcases Nat.eq_zero_or_pos count with rfl | leading
            · rw [Nat.pow_one] at fits
              omega
            · exact leading
          have smaller : number / base < base ^ count := by
            apply Nat.div_lt_of_lt_mul
            rwa [Nat.pow_succ, Nat.mul_comm] at fits
          simpa using inductionHypothesis leading smaller

end Text

namespace Net
namespace Address

open Text

theorem mapM_map_eq_some
    {α β : Type}
    {write : α → β}
    {read : β → Option α}
    {values : List α}
    (inverse : ∀ value ∈ values, read (write value) = some value) :
    (values.map write).mapM read = some values := by
  induction values with
  | nil => rfl
  | cons value rest inductionHypothesis =>
      rw [List.forall_mem_cons] at inverse
      rw [List.map_cons, List.mapM_cons, inverse.1, inductionHypothesis inverse.2]
      rfl

/-! ## IPv4 -/

theorem readOctet?_decimal {octet : Nat} (fits : octet < 256) :
    readOctet? (decimal octet) = some octet := by
  have short : (decimal octet).length ≤ 3 :=
    length_numeral_le (by decide) (by omega)
  have unpadded :
      ¬(1 < (decimal octet).length ∧ (decimal octet).head? = some '0') := by
    rintro ⟨long, leading⟩
    rcases Nat.eq_zero_or_pos octet with rfl | positive
    · rw [decimal_of_lt (by decide)] at long
      exact absurd long (by decide)
    · exact head?_decimal_ne_zero positive leading
  rw [readOctet?, if_neg unpadded, readShort?, if_pos short, readNumeral?_decimal,
    Option.filter_some, if_pos (decide_eq_true fits)]

/-- A printed IPv4 address reads back. -/
theorem readV4?_printV4 (bits : BitVec 32) : readV4? (printV4 bits) = some bits := by
  have cut : split '.' (printV4 bits) = (octets bits).map decimal := by
    apply split_join
    · simp [octets, toDigits]
    · intro piece listed point
      obtain ⟨octet, -, rfl⟩ := List.mem_map.1 listed
      exact absurd (isSome_digit?_of_mem_decimal point) (by decide)
  have read : ((octets bits).map decimal).mapM readOctet? = some (octets bits) :=
    mapM_map_eq_some fun octet listed =>
      readOctet?_decimal (lt_of_mem_toDigits (by decide) listed)
  obtain ⟨first, second, third, fourth, four⟩ :
      ∃ first second third fourth, octets bits = [first, second, third, fourth] :=
    ⟨_, _, _, _, rfl⟩
  rw [readV4?, cut, read, four]
  dsimp only
  rw [← four, ofOctets_octets]

/-! ## Groups -/

theorem colon_not_mem_numeral (number : Nat) : ':' ∉ numeral 16 number := by
  intro member
  have digit :=
    isSome_digit?_of_mem_numeral (by decide) digit?_digitChar_sixteen member
  exact absurd digit (by decide)

theorem readGroup?_numeral {group : Nat} (fits : group < 65536) :
    readGroup? (numeral 16 group) = some group := by
  have short : (numeral 16 group).length ≤ 4 :=
    length_numeral_le (by decide) (by omega)
  rw [readGroup?, readShort?, if_pos short,
    readNumeral?_numeral (by decide) digit?_digitChar_sixteen]

theorem mapM_readGroup?_numeral
    {groups : List Nat}
    (fit : ∀ group ∈ groups, group < 65536) :
    (groups.map (numeral 16)).mapM readGroup? = some groups :=
  mapM_map_eq_some fun group listed => readGroup?_numeral (fit group listed)

/-- Printed groups are read off the front of the pieces. -/
theorem readPieces?_append
    {groups : List Nat}
    (fit : ∀ group ∈ groups, group < 65536)
    {pieces : List (List Char)}
    (nonempty : pieces ≠ []) :
    readPieces? (groups.map (numeral 16) ++ pieces) =
      (readPieces? pieces).map (groups ++ ·) := by
  induction groups with
  | nil => simp
  | cons group rest inductionHypothesis =>
      rw [List.forall_mem_cons] at fit
      obtain ⟨next, more, split⟩ := List.exists_cons_of_ne_nil
        (List.append_ne_nil_of_right_ne_nil (rest.map (numeral 16)) nonempty)
      rw [List.map_cons, List.cons_append, split, readPieces?_cons_cons, ← split,
        inductionHypothesis fit.2, readGroup?_numeral fit.1]
      cases readPieces? pieces <;> rfl

theorem readPieces?_numeral
    {groups : List Nat}
    (fit : ∀ group ∈ groups, group < 65536) :
    readPieces? (groups.map (numeral 16)) = some groups := by
  -- The last piece is read in its own way, so it is split off at that end.
  rcases List.eq_nil_or_concat groups with rfl | ⟨front, last, rfl⟩
  · rfl
  · rw [List.concat_eq_append, List.forall_mem_append,
      List.forall_mem_singleton] at fit
    have single : readPieces? [numeral 16 last] = some [last] := by
      rw [readPieces?, readGroup?_numeral fit.2]
    rw [List.concat_eq_append, List.map_append,
      readPieces?_append fit.1 (by simp), List.map_cons, List.map_nil, single]
    rfl

/-- A dotted address as the last piece stands for two groups. -/
theorem readPieces?_printV4 (bits : BitVec 32) :
    readPieces? [printV4 bits] = some (toDigits 65536 2 bits.toNat) := by
  have point : '.' ∈ printV4 bits := by
    simp [printV4, octets, toDigits, join]
  have noGroup : readGroup? (printV4 bits) = none := by
    rw [readGroup?, readShort?]
    split
    · cases read : readNumeral? 16 (printV4 bits) with
      | none => rfl
      | some number =>
          exact absurd (forall_digit_of_readNumeral? read _ point) (by decide)
    · rfl
  rw [readPieces?, noGroup]
  dsimp only
  rw [readV4?_printV4, Option.map_some]

/-! ## The gap -/

theorem splitGap_cons
    {char : Char}
    (plain : char ≠ ':')
    (rest : List Char) :
    splitGap (char :: rest) =
      (splitGap rest).map fun (before, after) => (char :: before, after) :=
  splitGap.eq_2 _ _ fun _ colon => absurd colon plain

theorem splitGap_colon
    {next : Char}
    (plain : next ≠ ':')
    (rest : List Char) :
    splitGap (':' :: next :: rest) =
      (splitGap (next :: rest)).map fun (before, after) =>
        (':' :: before, after) := by
  apply splitGap.eq_2
  intro more _ same
  injection same with same
  exact plain same

theorem splitGap_append
    {piece : List Char}
    (plain : ':' ∉ piece)
    (rest : List Char) :
    splitGap (piece ++ rest) =
      (splitGap rest).map fun (before, after) => (piece ++ before, after) := by
  induction piece with
  | nil => simp
  | cons char more inductionHypothesis =>
      rw [List.mem_cons, not_or] at plain
      rw [List.cons_append, splitGap_cons (Ne.symm plain.1),
        inductionHypothesis plain.2, Option.map_map]
      rfl

theorem printGroups_cons_cons (group next : Nat) (groups : List Nat) :
    printGroups (group :: next :: groups) =
      numeral 16 group ++ ':' :: printGroups (next :: groups) := by
  simp [printGroups, join]

/-- Printed groups start with a digit. -/
theorem printGroups_eq_cons (group : Nat) (groups : List Nat) :
    ∃ char rest, printGroups (group :: groups) = char :: rest ∧ char ≠ ':' := by
  obtain ⟨char, digits, start⟩ :=
    List.exists_cons_of_ne_nil (numeral_ne_nil 16 group)
  have plain : char ≠ ':' := by
    rintro rfl
    exact colon_not_mem_numeral group (start ▸ List.mem_cons_self)
  cases groups with
  | nil => exact ⟨char, digits, start, plain⟩
  | cons next more =>
      refine ⟨char, digits ++ ':' :: printGroups (next :: more), ?_, plain⟩
      rw [printGroups_cons_cons, start, List.cons_append]

/-- No gap is found in printed groups, nor where they meet what follows. -/
theorem splitGap_printGroups (groups : List Nat) (rest : List Char) :
    splitGap (printGroups groups ++ rest) =
      (splitGap rest).map fun (before, after) =>
        (printGroups groups ++ before, after) := by
  induction groups with
  | nil => simp [printGroups, join]
  | cons group others inductionHypothesis =>
      have plain := colon_not_mem_numeral group
      cases others with
      | nil => exact splitGap_append plain rest
      | cons next more =>
          -- The colon after a group is followed by a digit, so it starts no gap.
          obtain ⟨char, tail, start, digit⟩ := printGroups_eq_cons next more
          rw [start, List.cons_append] at inductionHypothesis
          rw [printGroups_cons_cons, start, List.append_assoc,
            splitGap_append plain, List.cons_append, List.cons_append,
            splitGap_colon digit, inductionHypothesis, Option.map_map,
            Option.map_map]
          cases splitGap rest <;> simp

theorem pieces_printGroups (groups : List Nat) :
    pieces (printGroups groups) = groups.map (numeral 16) := by
  cases groups with
  | nil => rfl
  | cons group rest =>
      obtain ⟨char, digits, start, -⟩ := printGroups_eq_cons group rest
      rw [pieces, start, if_neg (by simp), ← start, printGroups,
        split_join (by simp)]
      intro piece listed
      obtain ⟨number, -, rfl⟩ := List.mem_map.1 listed
      exact colon_not_mem_numeral number

/-! ## IPv6 -/

theorem leadingZeros_spec (groups : List Nat) :
    ∃ rest, groups = List.replicate (leadingZeros groups) 0 ++ rest := by
  induction groups with
  | nil => exact ⟨[], rfl⟩
  | cons group rest inductionHypothesis =>
      cases group with
      | zero =>
          obtain ⟨after, equation⟩ := inductionHypothesis
          refine ⟨after, ?_⟩
          rw [leadingZeros, List.replicate_succ, List.cons_append, ← equation]
      | succ number => exact ⟨_, rfl⟩

/-- The run that printing may leave out consists of zero groups. -/
theorem longestRun_spec (groups : List Nat) :
    groups.take (longestRun groups).1 ++
        List.replicate (longestRun groups).2 0 ++
        groups.drop ((longestRun groups).1 + (longestRun groups).2) =
      groups := by
  induction groups with
  | nil => rfl
  | cons group rest inductionHypothesis =>
      rw [longestRun]
      dsimp only
      split
      · obtain ⟨after, equation⟩ := leadingZeros_spec (group :: rest)
        generalize leadingZeros (group :: rest) = count at equation
        rw [equation]
        simp
      · rw [List.take_succ_cons, Nat.add_right_comm, List.drop_succ_cons,
          List.cons_append, List.cons_append, inductionHypothesis]

/-- A double colon stands for the groups that are missing. -/
theorem readGroups?_of_gap
    {head tail : List Nat}
    (fitHead : ∀ group ∈ head, group < 65536)
    (fitTail : ∀ group ∈ tail, group < 65536)
    {count : Nat}
    (positive : 0 < count)
    (full : head.length + count + tail.length = 8) :
    readGroups? (printGroups head ++ "::".toList ++ printGroups tail) =
      some (head ++ List.replicate count 0 ++ tail) := by
  have cut : splitGap (printGroups head ++ "::".toList ++ printGroups tail) =
      some (printGroups head, printGroups tail) := by
    rw [List.append_assoc, splitGap_printGroups]
    simp [splitGap]
  have short : head.length + tail.length ≤ 7 := by omega
  have missing : 8 - (head.length + tail.length) = count := by omega
  rw [readGroups?, cut]
  dsimp only
  rw [pieces_printGroups, pieces_printGroups, mapM_readGroup?_numeral fitHead,
    readPieces?_numeral fitTail]
  simp [short, missing]

theorem readGroups?_of_full
    {groups : List Nat}
    (fit : ∀ group ∈ groups, group < 65536)
    (full : groups.length = 8) :
    readGroups? (printGroups groups) = some groups := by
  have cut : splitGap (printGroups groups) = none := by
    have whole := splitGap_printGroups groups []
    rwa [List.append_nil] at whole
  rw [readGroups?, cut]
  dsimp only
  rw [pieces_printGroups, readPieces?_numeral fit, Option.filter_some,
    if_pos (decide_eq_true full)]

/-- A dotted tail after the prefix of mapped addresses is read as two groups. -/
theorem readGroups?_mapped (bits : BitVec 32) :
    readGroups? ("::ffff:".toList ++ printV4 bits) =
      some (List.replicate 5 0 ++ [0xFFFF] ++ toDigits 65536 2 bits.toNat) := by
  have cut : splitGap ("::ffff:".toList ++ printV4 bits) =
      some ([], "ffff:".toList ++ printV4 bits) := rfl
  have dotted : ':' ∉ printV4 bits := by
    intro colon
    obtain point | ⟨piece, listed, inside⟩ := mem_of_mem_join colon
    · exact absurd point (by decide)
    · obtain ⟨octet, -, rfl⟩ := List.mem_map.1 listed
      exact absurd (isSome_digit?_of_mem_decimal inside) (by decide)
  have separated : pieces ("ffff:".toList ++ printV4 bits) =
      [0xFFFF].map (numeral 16) ++ [printV4 bits] := by
    have group : [0xFFFF].map (numeral 16) = ["ffff".toList] := by decide +kernel
    have plain : ':' ∉ "ffff".toList := by decide
    have apart := split_append_cons plain (printV4 bits)
    rw [split_of_not_mem dotted] at apart
    rw [group]
    exact apart
  rw [readGroups?, cut]
  dsimp only
  rw [separated, readPieces?_append (by decide) (by simp), readPieces?_printV4]
  simp [pieces, toDigits]

theorem ofGroups_mapped
    {bits : BitVec 128}
    (mapped : bits.toNat >>> 32 = 0xFFFF) :
    ofGroups (List.replicate 5 0 ++ [0xFFFF] ++
      toDigits 65536 2 (bits.setWidth 32).toNat) = bits := by
  apply BitVec.eq_of_toNat_eq
  have small := bits.isLt
  rw [Nat.shiftRight_eq_div_pow] at mapped
  simp only [ofGroups, ofDigits, toDigits, BitVec.toNat_ofNat, BitVec.toNat_setWidth,
    List.replicate, List.cons_append, List.nil_append, List.foldl_cons,
    List.foldl_nil]
  omega

/-- A printed IPv6 address reads back. -/
theorem readV6?_printV6 (bits : BitVec 128) : readV6? (printV6 bits) = some bits := by
  have fit : ∀ group ∈ groups bits, group < 65536 :=
    fun group listed => lt_of_mem_toDigits (by decide) listed
  have eight : (groups bits).length = 8 := length_toDigits ..
  rw [readV6?, printV6, canonical]
  by_cases mapped : bits.toNat >>> 32 = 0xFFFF
  · rw [if_pos mapped]
    dsimp only
    rw [readGroups?_mapped, Option.map_some, ofGroups_mapped mapped]
  · rw [if_neg mapped]
    dsimp only
    -- Of the run only its place matters here, not that it is the longest.
    have spec := longestRun_spec (groups bits)
    generalize (longestRun (groups bits)).1 = start at spec
    generalize (longestRun (groups bits)).2 = count at spec
    split
    · next long =>
        have total := congrArg List.length spec
        rw [List.length_append, List.length_append, List.length_replicate,
          eight] at total
        have read := readGroups?_of_gap
          (fun group listed => fit group (List.mem_of_mem_take listed))
          (fun group listed => fit group (List.mem_of_mem_drop listed))
          (by omega) total
        rw [read, spec, Option.map_some, ofGroups_groups]
    · rw [readGroups?_of_full fit eight, Option.map_some, ofGroups_groups]

/-! ## Both families -/

/-- A printed address reads back. -/
theorem read?_print (address : Address) : read? address.print = some address := by
  cases address with
  | v4 bits => rw [print, read?, readV4?_printV4]
  | v6 bits =>
      have read := readV6?_printV6 bits
      rw [print, read?, readV4?_eq_none_of_readV6? read, read, Option.map_some]

/-- Addresses with the same text are the same. -/
theorem print_injective : Function.Injective print := by
  intro first second same
  have read := read?_print first
  rw [same, read?_print second] at read
  exact (Option.some.inj read).symm

end Address
end Net
end Turnstile
