import Turnstile.Net.Address

/-!
# Endpoints

An address with a port.  An IPv6 address stands in brackets, with its scope
after a percent sign if it has one.
-/

namespace Turnstile
namespace Net

open Text

/-- An address, the scope of an IPv6 address, and a port. -/
structure Endpoint where
  address : Address
  scope : UInt32
  port : UInt16
deriving DecidableEq, Repr

namespace Endpoint

/-- Reads a decimal number below a bound; leading zeros are allowed. -/
def readBelow? (bound : Nat) (text : List Char) : Option Nat :=
  (readNumeral? 10 text).filter (· < bound)

/-- Reads an IPv4 address and a port with a colon between them. -/
def readV4? (text : List Char) : Option Endpoint :=
  match split ':' text with
  | [host, port] => do
      let bits ← Address.readV4? host
      let port ← readBelow? UInt16.size port
      return { address := .v4 bits, scope := 0, port := UInt16.ofNat port }
  | _ => none

/-- Reads what stands in the brackets: an IPv6 address and perhaps a scope. -/
def readScoped? (text : List Char) : Option (BitVec 128 × UInt32) :=
  match split '%' text with
  | [host] => (Address.readV6? host).map fun bits => (bits, 0)
  | [host, scope] => do
      let bits ← Address.readV6? host
      let scope ← readBelow? UInt32.size scope
      return (bits, UInt32.ofNat scope)
  | _ => none

/-- Reads an IPv6 address in brackets and a port after a colon. -/
def readV6? : List Char → Option Endpoint
  | '[' :: text =>
      match splitOnce ']' text with
      | some (inner, ':' :: port) => do
          let (bits, scope) ← readScoped? inner
          let port ← readBelow? UInt16.size port
          return { address := .v6 bits, scope, port := UInt16.ofNat port }
      | _ => none
  | _ => none

/-- Reads an endpoint of either family. -/
def read? (text : List Char) : Option Endpoint :=
  match readV4? text with
  | some endpoint => some endpoint
  | none => readV6? text

/-- The printed form of an endpoint. -/
def print (endpoint : Endpoint) : List Char :=
  let port := ':' :: decimal endpoint.port.toNat
  match endpoint.address with
  | .v4 bits => Address.printV4 bits ++ port
  | .v6 bits =>
      let scope :=
        if endpoint.scope = 0 then [] else '%' :: decimal endpoint.scope.toNat
      '[' :: Address.printV6 bits ++ scope ++ ']' :: port

/-- Whether a listener on one endpoint keeps another from opening: they have the
same port and overlapping addresses.  A port of zero asks for any free one and is
never refused. -/
def excludes (endpoint other : Endpoint) : Bool :=
  endpoint.port ≠ 0 && endpoint.port = other.port
    && endpoint.address.canonical.overlaps other.address.canonical

end Endpoint
end Net
end Turnstile
