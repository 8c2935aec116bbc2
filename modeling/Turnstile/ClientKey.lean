import Turnstile.Http.Message
import Turnstile.Net.TrustedProxies
import Turnstile.Text.Blank

/-!
# Client keys

The key under which a request is counted.  A bearer token names the caller
itself; else a trusted peer may name the client it forwards for; else the peer
is the client.

A token counts by its first 32 characters, which bounds the key and keeps whole
credentials out of it.  Nothing here checks that a token or a forwarded address
is genuine.
-/

namespace Turnstile

open Http Net Text

/-- Whom a request is counted for. -/
inductive Client where
  /-- The caller that presented a bearer token. -/
  | bearer (token : Bytes)
  /-- The client that a trusted peer forwards for. -/
  | forwarded (name : List Char)
  /-- The peer itself, where its address is known. -/
  | peer (address : Option Address)
deriving DecidableEq, Repr

namespace Client

/-- The number of token characters that a key keeps. -/
def maxTokenChars : Nat := 32

/-- The key of a client. -/
def key : Client → String
  | bearer token =>
      "user:" ++ String.ofList ((Utf8.decode token).take maxTokenChars)
  | forwarded name => "ip:" ++ String.ofList name
  | peer (some address) => "ip:" ++ String.ofList address.print
  | peer none => "ip:unknown"

end Client

/-- Decides whom a request is counted for. -/
structure Resolver where
  proxies : TrustedProxies
deriving DecidableEq, Repr

namespace Resolver

/-- A resolver that believes every peer. -/
def trusting : Resolver where
  proxies := .everyone

/-- What follows a given beginning. -/
def after? (beginning : Bytes) (bytes : Bytes) : Option Bytes :=
  if beginning.isPrefixOf bytes then some (bytes.drop beginning.length) else none

/-- The token of the first `Authorization` value, if that is a bearer value. -/
def bearerToken? (headers : Headers) : Option Bytes :=
  (headers.first? "authorization").bind
    (after? (Utf8.ofAscii "Bearer ".toList))

theorem after?_eq_some_iff {beginning bytes rest : Bytes} :
    after? beginning bytes = some rest ↔ bytes = beginning ++ rest := by
  rw [after?]
  split
  · next starts =>
      obtain ⟨tail, rfl⟩ := List.isPrefixOf_iff_prefix.1 starts
      simp
  · next other =>
      refine ⟨nofun, ?_⟩
      rintro rfl
      exact absurd (List.isPrefixOf_iff_prefix.2 (List.prefix_append ..)) other

/-- A token is what follows the word for bearers. -/
theorem bearerToken?_eq_some_iff {headers : Headers} {token : Bytes} :
    bearerToken? headers = some token ↔
      headers.first? "authorization" =
        some (Utf8.ofAscii "Bearer ".toList ++ token) := by
  rw [bearerToken?, Option.bind_eq_some_iff]
  simp only [after?_eq_some_iff]
  constructor
  · rintro ⟨value, presented, rfl⟩
    exact presented
  · intro presented
    exact ⟨_, presented, rfl⟩

/-- Whether a byte is visible ASCII, a space or a tab. -/
def isReadable (byte : UInt8) : Bool :=
  byte.toNat = 9 || Utf8.inRange 0x20 0x7E byte

/-- A value as text, if it is readable throughout. -/
def readable? (value : Bytes) : Option (List Char) :=
  if value.all isReadable then
    some (value.map fun byte => Char.ofNat byte.toNat)
  else none

/-- The first entry of the first `X-Forwarded-For` value, if that value is
readable and the entry is not blank. -/
def forwardedFor? (headers : Headers) : Option (List Char) := do
  let value ← headers.first? "x-forwarded-for"
  let text ← readable? value
  let entry ← (split ',' text).head?
  let name := trim entry
  if name.isEmpty then none else some name

/-- The address of the peer that sent a request. -/
def peerAddress (request : Request) : Option Address :=
  request.peer.map Endpoint.address

/-- Whether a peer may name the client it forwards for.  A peer that is not
known is believed. -/
def believes (resolver : Resolver) : Option Address → Bool
  | some peer => resolver.proxies.trusts peer
  | none => true

/-- Whom a request is counted for. -/
def client (resolver : Resolver) (request : Request) : Client :=
  match bearerToken? request.headers with
  | some token => .bearer token
  | none =>
      let peer := peerAddress request
      match forwardedFor? request.headers with
      | some name =>
          if resolver.believes peer then .forwarded name else .peer peer
      | none => .peer peer

/-- The key under which a request is counted. -/
def resolve (resolver : Resolver) (request : Request) : String :=
  (resolver.client request).key

end Resolver
end Turnstile
