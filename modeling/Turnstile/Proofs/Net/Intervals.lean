import Mathlib.Algebra.Group.Nat.Defs
import Mathlib.Data.Set.Lattice
import Mathlib.Order.CompletePartialOrder
import Turnstile.Net.Cidr

/-!
# Ranges as intervals

The addresses of a range are the numbers between two bounds: the network with its
host bits cleared, and as many further ones as the host bits can count.  Masking
compares the leading bits of two words, and those agree exactly if the words leave
the same number when the host bits are shifted out.

Two ranges of one family are thus blocks of a power of two numbers each, at a
multiple of their size.  Such blocks are nested or disjoint, do not depend on the
host bits that the network was written with, and only grow when the length gets
shorter.
-/

namespace Turnstile
namespace Net

namespace Address

/-- The number that the bits of an address stand for. -/
def value : Address → Nat
  | v4 bits => bits.toNat
  | v6 bits => bits.toNat

end Address

namespace Cidr

/-- The number of trailing bits in which the members of a range may differ. -/
def hostBits (range : Cidr) : Nat :=
  range.network.width - range.length

/-- The value of the network with its host bits cleared. -/
def lowest (range : Cidr) : Nat :=
  range.network.value >>> range.hostBits <<< range.hostBits

/-- The addresses that lie in a range. -/
def members (range : Cidr) : Set Address :=
  { address | range.contains address = true }

/-! ## Masks -/

theorem getLsbD_mask (width length index : Nat) :
    (mask width length).getLsbD index =
      (decide (index < width) && !decide (index < width - length)) := by
  rw [mask, BitVec.getLsbD_shiftLeft, BitVec.getLsbD_allOnes]
  by_cases inside : index < width
  · have shifted : index - (width - length) < width := by omega
    simp [inside, shifted]
  · simp [inside]

/-- Words agree in their leading bits exactly if shifting the others out leaves
the same number. -/
theorem agree_iff
    {width : Nat}
    (length : Nat)
    (first second : BitVec width) :
    agree length first second = true ↔
      first.toNat >>> (width - length) = second.toNat >>> (width - length) := by
  rw [agree, beq_iff_eq]
  constructor
  · intro same
    apply Nat.eq_of_testBit_eq
    intro index
    have bit := congrArg (·.getLsbD (width - length + index)) same
    simp only [BitVec.getLsbD_and, getLsbD_mask] at bit
    rw [Nat.testBit_shiftRight, Nat.testBit_shiftRight]
    change first.getLsbD _ = second.getLsbD _
    by_cases inside : width - length + index < width
    · have leading : ¬width - length + index < width - length := by omega
      simpa [inside, leading] using bit
    · rw [BitVec.getLsbD_of_ge _ _ (Nat.not_lt.1 inside),
        BitVec.getLsbD_of_ge _ _ (Nat.not_lt.1 inside)]
  · intro same
    apply BitVec.eq_of_getLsbD_eq
    intro index inside
    rw [BitVec.getLsbD_and, BitVec.getLsbD_and, getLsbD_mask]
    -- Host bits are masked on both sides; the others are bits of the shifted words.
    by_cases host : index < width - length
    · simp [host]
    · have bit := congrArg (·.testBit (index - (width - length))) same
      simp only [Nat.testBit_shiftRight] at bit
      rw [Nat.add_sub_cancel' (Nat.not_lt.1 host)] at bit
      change first.getLsbD _ = second.getLsbD _ at bit
      rw [bit]

/-! ## Blocks -/

/-- Membership is a matter of the family and of the leading bits. -/
theorem contains_iff_shiftRight
    (range : Cidr)
    (address : Address) :
    range.contains address = true ↔
      address.canonical.width = range.network.width ∧
        address.canonical.value >>> range.hostBits =
          range.network.value >>> range.hostBits := by
  obtain ⟨network, length, fits⟩ := range
  rw [contains, hostBits]
  cases network with
  | v4 network =>
      cases address.canonical with
      | v4 bits =>
          dsimp only
          rw [agree_iff, eq_comm]
          exact (and_iff_right rfl).symm
      | v6 bits => exact ⟨nofun, fun ⟨kin, _⟩ => absurd kin (by decide : 128 ≠ 32)⟩
  | v6 network =>
      cases address.canonical with
      | v4 bits => exact ⟨nofun, fun ⟨kin, _⟩ => absurd kin (by decide : 32 ≠ 128)⟩
      | v6 bits =>
          dsimp only
          rw [agree_iff, eq_comm]
          exact (and_iff_right rfl).symm

/-- Shifting out a number of bits gives the same number for a whole block. -/
theorem shiftRight_eq_iff (value other bits : Nat) :
    value >>> bits = other >>> bits ↔
      other >>> bits <<< bits ≤ value ∧
        value ≤ other >>> bits <<< bits + 2 ^ bits - 1 := by
  have positive : 0 < 2 ^ bits := Nat.two_pow_pos bits
  rw [Nat.shiftLeft_eq, Nat.shiftRight_eq_div_pow, Nat.shiftRight_eq_div_pow,
    Nat.div_eq_iff positive]

theorem shiftRight_eq_of_le
    {value other bits more : Nat}
    (same : value >>> bits = other >>> bits)
    (le : bits ≤ more) : value >>> more = other >>> more := by
  rw [← Nat.add_sub_cancel' le, Nat.shiftRight_add, Nat.shiftRight_add, same]

/-- An address lies in a range exactly if its canonical form is of the family of
the network and within the bounds. -/
theorem contains_iff_between (range : Cidr) (address : Address) :
    range.contains address = true ↔
      address.canonical.width = range.network.width ∧
        range.lowest ≤ address.canonical.value ∧
        address.canonical.value ≤ range.lowest + 2 ^ range.hostBits - 1 := by
  rw [contains_iff_shiftRight, shiftRight_eq_iff]
  rfl

/-- Of two ranges with a common member, the one with fewer host bits lies in the
other. -/
theorem members_subset_of_mem
    {first second : Cidr}
    {address : Address}
    (inFirst : address ∈ first.members)
    (inSecond : address ∈ second.members)
    (le : first.hostBits ≤ second.hostBits) : first.members ⊆ second.members := by
  obtain ⟨family, leading⟩ := (contains_iff_shiftRight _ _).1 inFirst
  obtain ⟨familyAlso, leadingAlso⟩ := (contains_iff_shiftRight _ _).1 inSecond
  intro other inside
  obtain ⟨kin, alike⟩ := (contains_iff_shiftRight _ _).1 inside
  apply (contains_iff_shiftRight _ _).2
  constructor
  · rw [kin, ← family, familyAlso]
  · rw [← leadingAlso]
    exact shiftRight_eq_of_le (alike.trans leading.symm) le

/-- Two ranges are nested or have no member in common. -/
theorem nested_or_disjoint (first second : Cidr) :
    first.members ⊆ second.members ∨ second.members ⊆ first.members ∨
      Disjoint first.members second.members := by
  by_cases common :
      ∃ address, address ∈ first.members ∧ address ∈ second.members
  · obtain ⟨address, inFirst, inSecond⟩ := common
    obtain le | le := Nat.le_total first.hostBits second.hostBits
    · exact .inl (members_subset_of_mem inFirst inSecond le)
    · exact .inr (.inl (members_subset_of_mem inSecond inFirst le))
  · refine .inr (.inr (Set.disjoint_left.2 ?_))
    intro address inFirst inSecond
    exact common ⟨address, inFirst, inSecond⟩

/-- Networks that differ in their host bits only make the same range. -/
theorem members_eq_of_lowest_eq
    {first second : Cidr}
    (family : first.network.width = second.network.width)
    (length : first.length = second.length)
    (lowest : first.lowest = second.lowest) : first.members = second.members := by
  have hosts : first.hostBits = second.hostBits := by
    rw [hostBits, hostBits, family, length]
  ext address
  change first.contains address = true ↔ second.contains address = true
  rw [contains_iff_between, contains_iff_between, family, lowest, hosts]

/-- A shorter length takes no member away. -/
theorem members_subset_of_length_le
    {wide narrow : Cidr}
    (network : wide.network = narrow.network)
    (shorter : wide.length ≤ narrow.length) :
    narrow.members ⊆ wide.members := by
  have hosts : narrow.hostBits ≤ wide.hostBits := by
    rw [hostBits, hostBits, network]
    omega
  intro address inside
  obtain ⟨family, leading⟩ := (contains_iff_shiftRight _ _).1 inside
  apply (contains_iff_shiftRight _ _).2
  rw [network]
  exact ⟨family, shiftRight_eq_of_le leading hosts⟩

/-- The members of a range are the addresses whose canonical form is of the family
of the network and whose value lies in the block of the network: the values from
the network with its host bits cleared, as many as the host bits can count.  Ranges
are therefore nested or disjoint, the host bits of a network make no difference,
and a shorter length takes no member away. -/
theorem members_are_intervals :
    (∀ (range : Cidr) (address : Address),
        range.contains address = true ↔
          address.canonical.width = range.network.width ∧
            range.lowest ≤ address.canonical.value ∧
            address.canonical.value ≤ range.lowest + 2 ^ range.hostBits - 1) ∧
      (∀ first second : Cidr,
        first.members ⊆ second.members ∨ second.members ⊆ first.members ∨
          Disjoint first.members second.members) ∧
      (∀ first second : Cidr,
        first.network.width = second.network.width →
        first.length = second.length →
        first.lowest = second.lowest →
        first.members = second.members) ∧
      ∀ wide narrow : Cidr,
        wide.network = narrow.network →
        wide.length ≤ narrow.length →
        narrow.members ⊆ wide.members :=
  ⟨contains_iff_between, nested_or_disjoint,
    fun _ _ family length lowest =>
      members_eq_of_lowest_eq family length lowest,
    fun _ _ network shorter => members_subset_of_length_le network shorter⟩

end Cidr
end Net
end Turnstile
