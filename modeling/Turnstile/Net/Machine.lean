import Turnstile.Net.Endpoint

/-!
# Machines

What a program can listen on.  A machine has addresses and network devices, and
programs already listen on some of its endpoints.  An endpoint is refused first
for its address and then for its port.
-/

namespace Turnstile
namespace Net

/-- Why an endpoint cannot be listened on. -/
inductive Refusal where
  /-- The scope of the address names no network device. -/
  | noDevice
  /-- Nobody can listen on an address of this kind. -/
  | unsuitable
  /-- Another listener has the port. -/
  | inUse
  /-- The machine does not have the address. -/
  | unassigned
deriving DecidableEq, Repr

namespace Refusal

/-- What a refusal is reported as. -/
def message : Refusal → String
  | noDevice => "No such device (os error 19)"
  | unsuitable => "Invalid argument (os error 22)"
  | inUse => "Address already in use (os error 98)"
  | unassigned => "Cannot assign requested address (os error 99)"

end Refusal

/-- The addresses and network devices of a machine, and the endpoints that are
listened on. -/
structure Machine where
  isAssigned : Address → Bool
  hasDevice : UInt32 → Bool
  listening : List Endpoint

namespace Machine

/-- A machine with every address and device, where nobody listens. -/
def unrestricted : Machine where
  isAssigned _ := true
  hasDevice _ := true
  listening := []

/-- A machine with the IPv4 addresses of its loopback device alone. -/
def loopback (listening : List Endpoint) : Machine where
  isAssigned
    | .v4 bits => bits.toNat >>> 24 = 127
    | .v6 _ => false
  hasDevice number := number = 1
  listening := listening

/-- Why the address of an endpoint is refused, if it is.  The addresses of all
zeros belong to every machine, and so do the IPv4 addresses of groups and the one
of all ones.  A link-local IPv6 address needs a device as its scope. -/
def addressRefusal? (machine : Machine) (endpoint : Endpoint) : Option Refusal :=
  let address := endpoint.address.canonical
  let unassigned :=
    if machine.isAssigned address then none else some Refusal.unassigned
  match address with
  | .v4 bits =>
      if bits = 0 || bits.toNat >>> 28 = 14 || bits = .allOnes 32 then none
      else unassigned
  | .v6 bits =>
      if bits = 0 then none
      else if bits.toNat >>> 120 = 0xFF then some .unsuitable
      else if bits.toNat >>> 118 = 0x3FA then
        if endpoint.scope = 0 then some .unsuitable
        else if machine.hasDevice endpoint.scope then unassigned
        else some .noDevice
      else unassigned

/-- Why an endpoint is refused, if it is. -/
def refusal? (machine : Machine) (endpoint : Endpoint) : Option Refusal :=
  match machine.addressRefusal? endpoint with
  | some refusal => some refusal
  | none =>
      if machine.listening.any endpoint.excludes then some .inUse else none

/-- Listens on an endpoint. -/
def listen (machine : Machine) (endpoint : Endpoint) : Except Refusal Machine :=
  match machine.refusal? endpoint with
  | some refusal => .error refusal
  | none => .ok { machine with listening := endpoint :: machine.listening }

end Machine
end Net
end Turnstile
