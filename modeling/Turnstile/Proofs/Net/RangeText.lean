import Turnstile.Net.Cidr
import Turnstile.Proofs.Net.AddressText

/-!
# Range texts

What texts are read as ranges, and as which: between blanks, an address that is
followed by a stroke and a length, or an address alone.  A stroke cannot stand in
an address, so that the first stroke is the only one there is to cut at.

Every range has a text of this form, its printed one, and the length in it is the
only length that the network can have there: a longer one is refused.
-/

namespace Turnstile
namespace Net

open Text

/-- Every possible length of a range fits a byte. -/
theorem Address.width_lt (address : Address) : address.width < 256 := by
  cases address
  · exact (by decide : 32 < 256)
  · exact (by decide : 128 < 256)

namespace Cidr

/-- Whether a text without blanks around it names a network and a length. -/
inductive Denotes : (text : List Char) → (network : Address) → (length : Nat) → Prop
  /-- An address, a stroke, and a length, which may have a plus sign. -/
  | ranged
      {address digits : List Char}
      {network : Address}
      {length : Nat}
      (read : Address.read? address = some network)
      (sign : List Char)
      (signed : sign = [] ∨ sign = ['+'])
      (counted : readNumeral? 10 digits = some length) :
      Denotes (address ++ '/' :: (sign ++ digits)) network length
  /-- An address alone names itself. -/
  | host
      {address : List Char}
      {network : Address}
      {length : Nat}
      (read : Address.read? address = some network)
      (whole : length = network.width) :
      Denotes address network length

theorem readLength?_eq_some_iff
    {text : List Char}
    {length : Nat} :
    readLength? text = some length ↔ readInteger 256 text = .ok length := by
  rw [readLength?]
  cases readInteger 256 text <;> simp [Except.toOption]

theorem make?_eq_some_iff
    {network : Address}
    {length : Nat}
    {range : Cidr} :
    make? network length = some range ↔
      range.network = network ∧ range.length = length := by
  obtain ⟨known, count, fits⟩ := range
  rw [make?]
  split
  · simp [eq_comm]
  · next long =>
      refine ⟨nofun, ?_⟩
      rintro ⟨rfl, rfl⟩
      exact absurd fits long

theorem stroke_not_mem_of_read?
    {text : List Char}
    {address : Address}
    (read : Address.read? text = some address) : '/' ∉ text :=
  fun member => absurd (Address.isPart_of_read? read '/' member) (by decide)

theorem readTrimmed?_stroke
    {address : List Char}
    {network : Address}
    (read : Address.read? address = some network)
    (suffix : List Char) :
    readTrimmed? (address ++ '/' :: suffix) =
      (readLength? suffix).bind (make? network) := by
  rw [readTrimmed?, splitOnce_append_cons (stroke_not_mem_of_read? read)]
  simp [read]

theorem readTrimmed?_host
    {address : List Char}
    {network : Address}
    (read : Address.read? address = some network) :
    readTrimmed? address = make? network network.width := by
  rw [readTrimmed?, splitOnce_of_not_mem (stroke_not_mem_of_read? read)]
  simp [read]

/-- A text is read as the range that it names. -/
theorem readTrimmed?_eq_some_iff
    {text : List Char}
    {range : Cidr} :
    readTrimmed? text = some range ↔ Denotes text range.network range.length := by
  constructor
  · intro read
    cases cut : splitOnce '/' text with
    | none =>
        simp only [readTrimmed?, cut, Option.bind_eq_bind,
          Option.bind_eq_some_iff] at read
        obtain ⟨network, known, made⟩ := read
        obtain ⟨same, whole⟩ := make?_eq_some_iff.1 made
        rw [← same] at known whole
        exact .host known whole
    | some sides =>
        obtain ⟨address, suffix⟩ := sides
        simp only [readTrimmed?, cut, Option.bind_eq_bind,
          Option.bind_eq_some_iff] at read
        obtain ⟨network, known, length, counted, made⟩ := read
        obtain ⟨rfl, rfl⟩ := make?_eq_some_iff.1 made
        rw [eq_append_of_splitOnce cut]
        rw [readLength?_eq_some_iff, readInteger_eq_ok_iff (by decide)] at counted
        obtain ⟨-, plain | ⟨digits, rfl, numeral⟩⟩ := counted
        · exact .ranged known [] (.inl rfl) plain
        · exact .ranged known ['+'] (.inr rfl) numeral
  · intro denotes
    obtain ⟨network, length, fits⟩ := range
    cases denotes with
    | ranged read sign signed counted =>
        have byte := Nat.lt_of_le_of_lt fits network.width_lt
        rw [readTrimmed?_stroke read, Option.bind_eq_some_iff]
        refine ⟨length, ?_, make?_eq_some_iff.2 ⟨rfl, rfl⟩⟩
        rw [readLength?_eq_some_iff, readInteger_eq_ok_iff (by decide)]
        obtain rfl | rfl := signed
        · exact ⟨byte, .inl counted⟩
        · exact ⟨byte, .inr ⟨_, rfl, counted⟩⟩
    | host read whole =>
        rw [readTrimmed?_host read]
        exact make?_eq_some_iff.2 ⟨rfl, whole⟩

/-- What a text names is read, and what is read is named. -/
theorem read_eq_ok_iff
    {text : List Char}
    {range : Cidr} :
    read text = .ok range ↔
      Denotes (trim text) range.network range.length := by
  rw [← readTrimmed?_eq_some_iff, read]
  cases readTrimmed? (trim text) <;> simp

/-! ## Written ranges -/

theorem isBlank_of_mem_ranged
    (network : Address)
    (length : Nat) :
    ∀ char ∈ network.print ++ '/' :: decimal length, isBlank char = false := by
  rw [List.forall_mem_append, List.forall_mem_cons]
  refine ⟨Address.isBlank_of_read? (Address.read?_print network), rfl, ?_⟩
  intro char member
  obtain ⟨digit, known⟩ :=
    Option.isSome_iff_exists.1 (isSome_digit?_of_mem_decimal member)
  exact isBlank_of_digit? known

theorem trim_ranged
    {before after : List Char}
    (blankBefore : ∀ char ∈ before, isBlank char = true)
    (blankAfter : ∀ char ∈ after, isBlank char = true)
    (network : Address)
    (length : Nat) :
    trim (before ++ (network.print ++ '/' :: decimal length) ++ after) =
      network.print ++ '/' :: decimal length :=
  trim_surrounded blankBefore
    (isTrimmed_of_forall (isBlank_of_mem_ranged network length)) (by simp)
    blankAfter

theorem read_ranged
    {before after : List Char}
    (blankBefore : ∀ char ∈ before, isBlank char = true)
    (blankAfter : ∀ char ∈ after, isBlank char = true)
    {network : Address}
    {length : Nat}
    (fits : length ≤ network.width) :
    read (before ++ (network.print ++ '/' :: decimal length) ++ after) =
      .ok { network, length, length_le := fits } := by
  rw [read_eq_ok_iff, trim_ranged blankBefore blankAfter]
  exact .ranged (Address.read?_print network) [] (.inl rfl)
    (readNumeral?_decimal length)

/-- A length that the family of the network does not have is refused. -/
theorem read_ranged_of_width_lt
    {before after : List Char}
    (blankBefore : ∀ char ∈ before, isBlank char = true)
    (blankAfter : ∀ char ∈ after, isBlank char = true)
    {network : Address}
    {length : Nat}
    (long : network.width < length) :
    read (before ++ (network.print ++ '/' :: decimal length) ++ after) =
      .error { text := network.print ++ '/' :: decimal length } := by
  have refused :
      readTrimmed? (network.print ++ '/' :: decimal length) = none := by
    rw [readTrimmed?_stroke (Address.read?_print network),
      Option.bind_eq_none_iff]
    intro read counted
    rw [readLength?_eq_some_iff, readInteger_decimal (by decide)] at counted
    rw [← counted.2, make?, dif_neg (Nat.not_le_of_lt long)]
  rw [read, trim_ranged blankBefore blankAfter, refused]

/-- An address is read alone as its own range, however it is spelled. -/
theorem read_host
    {text : List Char}
    {network : Address}
    (spelled : Address.read? (trim text) = some network) :
    read text =
      .ok { network, length := network.width, length_le := Nat.le_refl _ } :=
  read_eq_ok_iff.2 (.host spelled rfl)

theorem trim_host
    {before after : List Char}
    (blankBefore : ∀ char ∈ before, isBlank char = true)
    (blankAfter : ∀ char ∈ after, isBlank char = true)
    (network : Address) :
    trim (before ++ network.print ++ after) = network.print := by
  have read := Address.read?_print network
  have nonempty : network.print ≠ [] := by
    intro empty
    rw [empty, Address.read?_nil] at read
    cases read
  exact trim_surrounded blankBefore
    (isTrimmed_of_forall (Address.isBlank_of_read? read)) nonempty blankAfter

/-- The printed text of a range is read as the range. -/
theorem read_print (range : Cidr) : read range.print = .ok range := by
  have noBlanks : ∀ char ∈ ([] : List Char), isBlank char = true := by simp
  have bare := read_ranged noBlanks noBlanks range.length_le
  rwa [List.nil_append, List.append_nil] at bare

/-- Between any blanks, a network and a length are read as they are written, host
bits included; a length above the width of the network is refused, and a network
alone has its whole width.  A text is accepted exactly for what it names, and
printing what was accepted gives a text that is read in the same way. -/
theorem texts_of_ranges
    {before after : List Char}
    (blankBefore : ∀ char ∈ before, isBlank char = true)
    (blankAfter : ∀ char ∈ after, isBlank char = true)
    (network : Address) :
    (∀ length, (fits : length ≤ network.width) →
        read (before ++ (network.print ++ '/' :: decimal length) ++ after) =
          .ok { network, length, length_le := fits }) ∧
      (∀ length, network.width < length →
        read (before ++ (network.print ++ '/' :: decimal length) ++ after) =
          .error { text := network.print ++ '/' :: decimal length }) ∧
      read (before ++ network.print ++ after) =
        .ok { network, length := network.width, length_le := Nat.le_refl _ } ∧
      (∀ text range,
        read text = .ok range ↔
          Denotes (trim text) range.network range.length) ∧
      ∀ range : Cidr, read range.print = .ok range := by
  refine ⟨?ranged, ?long, ?alone, fun _ _ => read_eq_ok_iff, read_print⟩
  case ranged =>
    intro length fits
    exact read_ranged blankBefore blankAfter fits
  case long =>
    intro length long
    exact read_ranged_of_width_lt blankBefore blankAfter long
  case alone =>
    apply read_host
    rw [trim_host blankBefore blankAfter, Address.read?_print]

/-- A network with two runs of zero groups, of which the first is left out, between
blanks of three kinds: with a length that it can have and with one that it cannot. -/
theorem texts_between_three_blanks :
    let network : Address :=
      .v6 (BitVec.ofNat 128 0x2001_0DB8_0000_0000_0001_0000_0000_0001)
    let before := [' ', '\u00A0']
    let after := ['\t']
    (∀ char ∈ before, isBlank char = true) ∧
      (∀ char ∈ after, isBlank char = true) ∧
      before ++ (network.print ++ '/' :: decimal 44) ++ after =
        " \u00A02001:db8::1:0:0:1/44\t".toList ∧
      read (before ++ (network.print ++ '/' :: decimal 44) ++ after) =
        .ok { network, length := 44, length_le := by decide } ∧
      read (before ++ (network.print ++ '/' :: decimal 129) ++ after) =
        .error { text := "2001:db8::1:0:0:1/129".toList } := by
  intro network before after
  have blankBefore : ∀ char ∈ before, isBlank char = true :=
    List.all_eq_true.mp (by decide)
  have blankAfter : ∀ char ∈ after, isBlank char = true :=
    List.all_eq_true.mp (by decide)
  obtain ⟨ranged, long, -⟩ := texts_of_ranges blankBefore blankAfter network
  have refused := long 129 (by decide)
  have written : network.print ++ '/' :: decimal 129 =
      "2001:db8::1:0:0:1/129".toList := by
    decide +kernel
  exact ⟨blankBefore, blankAfter, by decide +kernel, ranged 44 (by decide),
    refused.trans (by rw [written])⟩

end Cidr
end Net
end Turnstile
