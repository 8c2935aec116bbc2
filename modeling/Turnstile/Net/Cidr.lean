import Turnstile.Net.Address
import Turnstile.Text.Blank

/-!
# Address ranges

A range is a network address with the number of its leading bits that count,
written `address/length`.  An address alone is the range of that one host.
-/

namespace Turnstile
namespace Net

open Text

/-- A network and the number of leading bits that all its members share. -/
structure Cidr where
  network : Address
  length : Nat
  length_le : length ≤ network.width
deriving DecidableEq, Repr

/-- A text that is no range, without its surrounding blanks. -/
structure InvalidCidr where
  text : List Char
deriving DecidableEq, Repr

namespace InvalidCidr

/-- The text reported for a rejected range. -/
def message (invalid : InvalidCidr) : String :=
  "invalid CIDR range: " ++ String.ofList invalid.text

end InvalidCidr

namespace Cidr

/-- A word whose `length` leading bits are set. -/
def mask (width length : Nat) : BitVec width :=
  BitVec.allOnes width <<< (width - length)

/-- Whether two words agree in their leading bits. -/
def agree {width : Nat} (length : Nat) (first second : BitVec width) : Bool :=
  first &&& mask width length == second &&& mask width length

/-- Whether an address lies in the range.  The address is compared in canonical
form and the network as written, so an IPv4-mapped peer lies in IPv4 ranges. -/
def contains (range : Cidr) (address : Address) : Bool :=
  match range.network, address.canonical with
  | .v4 network, .v4 bits => agree range.length network bits
  | .v6 network, .v6 bits => agree range.length network bits
  | _, _ => false

/-- The range of a network with a given length, if the length is possible. -/
def make? (network : Address) (length : Nat) : Option Cidr :=
  if length_le : length ≤ network.width then some { network, length, length_le }
  else none

/-- Reads the length of a range, which fits a byte. -/
def readLength? (text : List Char) : Option Nat :=
  (readInteger 256 text).toOption

/-- Reads a trimmed text as a range. -/
def readTrimmed? (text : List Char) : Option Cidr :=
  match splitOnce '/' text with
  | some (address, length) => do
      let network ← Address.read? address
      let length ← readLength? length
      make? network length
  | none => do
      let network ← Address.read? text
      make? network network.width

/-- Reads a range between blanks. -/
def read (text : List Char) : Except InvalidCidr Cidr :=
  match readTrimmed? (trim text) with
  | some range => .ok range
  | none => .error { text := trim text }

/-- The written form of a range. -/
def print (range : Cidr) : List Char :=
  range.network.print ++ '/' :: decimal range.length

/-- The network and the length on one line. -/
def describe (range : Cidr) : String :=
  "CidrRange \x7b network: " ++ String.ofList range.network.print
    ++ ", prefix_len: " ++ decimalText range.length ++ " \x7d"

end Cidr
end Net
end Turnstile
