import Turnstile.Net.Radix
import Turnstile.Text.Fields
import Turnstile.Text.Numeral

/-!
# Network addresses

IPv4 and IPv6 addresses with their texts.  An IPv4 address is written as four
decimal octets without leading zeros.  An IPv6 address is written as eight
hexadecimal groups, of which one run of zero groups may be left out as `::`, and
of which the last two may be written as an IPv4 address.

The printed form of an IPv6 address leaves out the first longest run of two or
more zero groups; only an IPv4-mapped address ends in a dotted address.
-/

namespace Turnstile
namespace Net

open Text

/-- An IPv4 or IPv6 address. -/
inductive Address where
  | v4 (bits : BitVec 32)
  | v6 (bits : BitVec 128)
deriving DecidableEq, Repr

namespace Address

/-- The number of bits of an address of this family. -/
def width : Address → Nat
  | v4 _ => 32
  | v6 _ => 128

/-- An IPv4-mapped IPv6 address stands for the IPv4 address in its low bits;
every other address stands for itself. -/
def canonical : Address → Address
  | v4 bits => v4 bits
  | v6 bits =>
      if bits.toNat >>> 32 = 0xFFFF then v4 (bits.setWidth 32) else v6 bits

/-- Whether a listener on one address also hears what is sent to another.  The
address of all zeros hears its whole family, and that of IPv6 hears IPv4 too. -/
def overlaps : Address → Address → Bool
  | v4 first, v4 second => first = second || first = 0 || second = 0
  | v6 first, v6 second => first = second || first = 0 || second = 0
  | v4 _, v6 bits => bits = 0
  | v6 bits, v4 _ => bits = 0

/-- The four octets of an IPv4 address. -/
def octets (bits : BitVec 32) : List Nat :=
  toDigits 256 4 bits.toNat

/-- The eight groups of an IPv6 address. -/
def groups (bits : BitVec 128) : List Nat :=
  toDigits 65536 8 bits.toNat

/-- The IPv4 address with the given octets. -/
def ofOctets (octets : List Nat) : BitVec 32 :=
  BitVec.ofNat 32 (ofDigits 256 octets)

/-- The IPv6 address with the given groups. -/
def ofGroups (groups : List Nat) : BitVec 128 :=
  BitVec.ofNat 128 (ofDigits 65536 groups)

/-! ## Printing -/

/-- Four decimal octets with points between them. -/
def printV4 (bits : BitVec 32) : List Char :=
  join ['.'] ((octets bits).map decimal)

/-- The number of zero groups that a list starts with. -/
def leadingZeros : List Nat → Nat
  | 0 :: rest => leadingZeros rest + 1
  | _ => 0

/-- Where the first longest run of zero groups starts, and its length. -/
def longestRun : List Nat → Nat × Nat
  | [] => (0, 0)
  | group :: rest =>
      let here := leadingZeros (group :: rest)
      let (start, length) := longestRun rest
      if length ≤ here then (0, here) else (start + 1, length)

/-- Hexadecimal groups with colons between them. -/
def printGroups (groups : List Nat) : List Char :=
  join [':'] (groups.map (numeral 16))

/-- The printed form of an IPv6 address. -/
def printV6 (bits : BitVec 128) : List Char :=
  match canonical (v6 bits) with
  | v4 mapped => "::ffff:".toList ++ printV4 mapped
  | v6 _ =>
      let all := groups bits
      let (start, length) := longestRun all
      if 2 ≤ length then
        printGroups (all.take start) ++ "::".toList
          ++ printGroups (all.drop (start + length))
      else printGroups all

/-- The printed form of an address. -/
def print : Address → List Char
  | v4 bits => printV4 bits
  | v6 bits => printV6 bits

/-! ## Reading -/

/-- Reads a number of at most `count` digits in a base. -/
def readShort? (base count : Nat) (text : List Char) : Option Nat :=
  if text.length ≤ count then readNumeral? base text else none

/-- Reads a decimal octet, which has no leading zero. -/
def readOctet? (text : List Char) : Option Nat :=
  if 1 < text.length ∧ text.head? = some '0' then none
  else (readShort? 10 3 text).filter (· < 256)

/-- Reads four octets with points between them. -/
def readV4? (text : List Char) : Option (BitVec 32) :=
  match (split '.' text).mapM readOctet? with
  | some [first, second, third, fourth] =>
      some (ofOctets [first, second, third, fourth])
  | _ => none

/-- Reads a group of one to four hexadecimal digits. -/
def readGroup? (text : List Char) : Option Nat :=
  readShort? 16 4 text

/-- Reads the pieces between colons; the last may be an IPv4 address, which
stands for two groups. -/
def readPieces? : List (List Char) → Option (List Nat)
  | [] => some []
  | [piece] =>
      match readGroup? piece with
      | some group => some [group]
      | none => (readV4? piece).map fun bits => toDigits 65536 2 bits.toNat
  | piece :: pieces => do
      let group ← readGroup? piece
      let groups ← readPieces? pieces
      return group :: groups

/-- Cuts a text at its first double colon, if it has one. -/
def splitGap : List Char → Option (List Char × List Char)
  | ':' :: ':' :: rest => some ([], rest)
  | char :: rest =>
      (splitGap rest).map fun (before, after) => (char :: before, after)
  | [] => none

/-- The pieces between colons; the empty text has none. -/
def pieces (text : List Char) : List (List Char) :=
  if text.isEmpty then [] else split ':' text

/-- Reads the groups of an IPv6 address.  A double colon stands for one or more
zero groups, and no IPv4 address may come before it. -/
def readGroups? (text : List Char) : Option (List Nat) :=
  match splitGap text with
  | none => (readPieces? (pieces text)).filter fun groups => groups.length = 8
  | some (before, after) => do
      let head ← (pieces before).mapM readGroup?
      let tail ← readPieces? (pieces after)
      let written := head.length + tail.length
      if written ≤ 7 then
        return head ++ List.replicate (8 - written) 0 ++ tail
      else none

/-- Reads an IPv6 address. -/
def readV6? (text : List Char) : Option (BitVec 128) :=
  (readGroups? text).map ofGroups

/-- Reads an address of either family. -/
def read? (text : List Char) : Option Address :=
  match readV4? text with
  | some bits => some (v4 bits)
  | none => (readV6? text).map v6

/-- Cutting an IPv4 address into octets loses nothing. -/
theorem ofOctets_octets (bits : BitVec 32) : ofOctets (octets bits) = bits := by
  rw [ofOctets, octets, ofDigits_toDigits (by simpa using bits.isLt)]
  simp

/-- Cutting an IPv6 address into groups loses nothing. -/
theorem ofGroups_groups (bits : BitVec 128) : ofGroups (groups bits) = bits := by
  rw [ofGroups, groups, ofDigits_toDigits (by simpa using bits.isLt)]
  simp

end Address
end Net
end Turnstile
