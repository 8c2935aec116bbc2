import Turnstile.Net.TrustedProxies
import Turnstile.Proofs.Net.Intervals
import Turnstile.Proofs.Net.RangeText

/-!
# Single hosts

An address that is configured without a length is the range of one host.  A member
is compared in its canonical form, but the network as it was written: an IPv4-mapped
address, which is the canonical form of no address, is therefore a range without
members.  It stands for a host as every other address does, and is still not found
in the range that it names itself.
-/

namespace Turnstile
namespace Net

open Text

namespace Address

theorem eq_of_value_eq
    {first second : Address}
    (family : first.width = second.width)
    (value : first.value = second.value) : first = second := by
  cases first with
  | v4 bits =>
      cases second with
      | v4 other => exact congrArg v4 (BitVec.eq_of_toNat_eq value)
      | v6 other => exact absurd family (by decide : 32 ≠ 128)
  | v6 bits =>
      cases second with
      | v4 other => exact absurd family (by decide : 128 ≠ 32)
      | v6 other => exact congrArg v6 (BitVec.eq_of_toNat_eq value)

/-- A canonical form is its own canonical form. -/
@[simp] theorem canonical_canonical (address : Address) :
    address.canonical.canonical = address.canonical := by
  cases address with
  | v4 bits => rfl
  | v6 bits =>
      by_cases mapped : bits.toNat >>> 32 = 0xFFFF
      · rw [canonical, if_pos mapped]
        rfl
      · rw [canonical, if_neg mapped, canonical, if_neg mapped]

end Address

namespace Cidr

/-- The range of one address. -/
def host (network : Address) : Cidr where
  network := network
  length := network.width
  length_le := Nat.le_refl _

/-- The one member of a host's range, in canonical form, is the network as it was
written. -/
theorem contains_host_iff (network address : Address) :
    (host network).contains address = true ↔ address.canonical = network := by
  have fixed : (host network).hostBits = 0 := Nat.sub_self _
  rw [contains_iff_shiftRight, fixed, Nat.shiftRight_zero, Nat.shiftRight_zero]
  constructor
  · rintro ⟨family, value⟩
    exact Address.eq_of_value_eq family value
  · intro same
    rw [same]
    exact ⟨rfl, rfl⟩

/-- A host's range holds all forms of the host exactly if the host was written in
its canonical form. -/
theorem contains_host_iff_canonical (network : Address) :
    (∀ address, (host network).contains address = true ↔
        address.canonical = network.canonical) ↔
      network.canonical = network := by
  constructor
  · intro all
    have own := (all network).2 rfl
    rwa [contains_host_iff] at own
  · intro plain address
    rw [contains_host_iff, plain]

end Cidr

namespace TrustedProxies

/-- An entry that is a range makes the members of the range trusted. -/
theorem trusts_of_contains
    {entries : List String}
    {entry : String}
    (listed : entry ∈ entries)
    {range : Cidr}
    (read : Cidr.read entry.toList = .ok range)
    {peer : Address}
    (inside : range.contains peer = true) :
    (ofEntries entries).trusts peer = true := by
  rw [trusts, Bool.or_eq_true, List.any_eq_true]
  refine .inr ⟨range, List.mem_filterMap.2 ⟨entry, listed, ?_⟩, inside⟩
  rw [read]
  rfl

end TrustedProxies

namespace Cidr

/-- An address alone, between blanks and in any of its spellings, the printed one
among them, is read as the range whose members are the addresses with just this
canonical form.  These are all forms of the host exactly if the address is not
IPv4-mapped; a peer with this canonical form is trusted wherever the address is
listed. -/
theorem single_host_iff_canonical (network : Address) :
    Address.read? (trim network.print) = some network ∧
      (∀ text, Address.read? (trim text) = some network →
        read text = .ok (host network) ∧
          ∀ entries peer, String.ofList text ∈ entries →
            peer.canonical = network →
            (TrustedProxies.ofEntries entries).trusts peer = true) ∧
      (∀ address, (host network).contains address = true ↔
        address.canonical = network) ∧
      ((∀ address, (host network).contains address = true ↔
          address.canonical = network.canonical) ↔
        network.canonical = network) := by
  refine ⟨?printed, ?spelled, contains_host_iff network,
    contains_host_iff_canonical network⟩
  case printed =>
    have read := Address.read?_print network
    have trimmed := isTrimmed_of_forall (Address.isBlank_of_read? read)
    rw [trim_eq_self trimmed, read]
  case spelled =>
    intro text spelled
    have known : read text = .ok (host network) := read_host spelled
    refine ⟨known, ?_⟩
    intro entries peer listed same
    have entered : read (String.ofList text).toList = .ok (host network) := by
      rw [String.toList_ofList, known]
    exact TrustedProxies.trusts_of_contains listed entered
      ((contains_host_iff network peer).2 same)

/-- Upper-case letters, written zeros and blanks around: the host is found in its
range, and trusted where it is listed. -/
theorem single_host_in_other_spelling :
    let text := " 2001:DB8:0:0::0001\n".toList
    let network : Address :=
      .v6 (BitVec.ofNat 128 0x2001_0DB8_0000_0000_0000_0000_0000_0001)
    Address.read? (trim text) = some network ∧
      network.canonical = network ∧
      read text = .ok (host network) ∧
      (∀ address, (host network).contains address = true ↔
        address.canonical = network.canonical) ∧
      (TrustedProxies.ofEntries [String.ofList text, "10.0.0.0/8"]).trusts
        network = true := by
  intro text network
  have spelled : Address.read? (trim text) = some network := by decide +kernel
  have plain : network.canonical = network := by decide
  obtain ⟨-, known, -, whole⟩ := single_host_iff_canonical network
  obtain ⟨read, trusted⟩ := known text spelled
  exact ⟨spelled, plain, read, whole.2 plain,
    trusted _ network List.mem_cons_self plain⟩

/-- An IPv4-mapped address is read as a range and stands for a host, but neither form
of the host is in the range, and listing the address trusts neither. -/
theorem mapped_host_outside_own_range :
    let text := "::ffff:10.0.0.1"
    let network : Address := .v6 (BitVec.ofNat 128 0xFFFF_0A00_0001)
    let plain : Address := .v4 (BitVec.ofNat 32 0x0A00_0001)
    network.print = text.toList ∧ read text.toList = .ok (host network) ∧
      network.canonical = plain ∧ plain.canonical = plain ∧
      (host network).contains network = false ∧
      (host network).contains plain = false ∧
      (TrustedProxies.ofEntries [text]).trusts network = false ∧
      (TrustedProxies.ofEntries [text]).trusts plain = false := by
  intro text network plain
  have spelled : Address.read? (trim text.toList) = some network := by
    decide +kernel
  exact ⟨by decide +kernel, read_host spelled, by decide +kernel, rfl,
    by decide +kernel, by decide +kernel, by decide +kernel, by decide +kernel⟩

end Cidr
end Net
end Turnstile
