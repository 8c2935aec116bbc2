import Turnstile.Proofs.Enforcement.Forwarding
import Turnstile.Proofs.Net.AddressText

/-!
# Keys of peers

A request that shows no bearer token is counted under an address: under the one
that its forwarding headers name, if they name one and its peer is believed, and
under that of its peer otherwise.  The two ways are told apart here by what the
headers hold.

An address can be read back from its text.  Two peers are therefore never counted
together, however many ways there are for their headers to name nobody, and a name
from a header meets a peer only if it is the text of the peer's address.
-/

namespace Turnstile

open Http Net Text

namespace Resolver

/-- The text of a value up to its first comma. -/
def firstEntry (value : Bytes) : List Char :=
  (value.map fun byte => Char.ofNat byte.toNat).takeWhile (· ≠ ',')

/-- Whether the forwarding headers name a client: their first value is readable,
and its first entry is the name between blanks. -/
structure Names (headers : Headers) (name : List Char) : Prop where
  nonempty : name ≠ []
  entry : ∃ value,
    headers.first? "x-forwarded-for" = some value ∧
      (∀ byte ∈ value, isReadable byte = true) ∧
      name = trim (firstEntry value)

/-- The ways in which forwarding headers name nobody. -/
inductive NamesNobody (headers : Headers) : Prop
  | absent
      (missing : headers.first? "x-forwarded-for" = none)
  | unreadable
      {value : Bytes}
      (first : headers.first? "x-forwarded-for" = some value)
      {byte : UInt8}
      (listed : byte ∈ value)
      (odd : isReadable byte = false)
  | blank
      {value : Bytes}
      (first : headers.first? "x-forwarded-for" = some value)
      (readable : ∀ byte ∈ value, isReadable byte = true)
      (blank : ∀ char ∈ firstEntry value, isBlank char = true)

/-- Whether a request is counted under the address of its peer: it shows no bearer
token, and its headers name nobody or its peer is not trusted to name anybody. -/
structure CountsPeer
    (resolver : Resolver)
    (request : Request)
    (peer : Address) : Prop where
  bare : ComesBareFrom peer request
  unnamed : NamesNobody request.headers ∨ resolver.proxies.trusts peer = false

/-- Whether a request is counted under a name from its forwarding headers: it shows
no bearer token, and its peer is trusted or not known. -/
structure CountsNamed
    (resolver : Resolver)
    (request : Request)
    (name : List Char) : Prop where
  bare : ∀ value ∈ request.headers.first? "authorization",
    ¬Utf8.ofAscii "Bearer ".toList <+: value
  named : Names request.headers name
  believed : ∀ peer, request.peer.map Endpoint.address = some peer →
    resolver.proxies.trusts peer = true

/-! ## What the forwarding headers say -/

theorem readable?_of_odd
    {value : Bytes}
    {byte : UInt8}
    (listed : byte ∈ value)
    (odd : isReadable byte = false) : readable? value = none := by
  apply if_neg
  intro all
  rw [List.all_eq_true.1 all byte listed] at odd
  cases odd

/-- A readable value names what its first entry holds between blanks, if that is
anything. -/
theorem forwardedFor?_of_readable
    {headers : Headers}
    {value : Bytes}
    (first : headers.first? "x-forwarded-for" = some value)
    (readable : ∀ byte ∈ value, isReadable byte = true) :
    forwardedFor? headers =
      if trim (firstEntry value) = [] then none
      else some (trim (firstEntry value)) := by
  have text : readable? value =
      some (value.map fun byte => Char.ofNat byte.toNat) :=
    if_pos (List.all_eq_true.2 readable)
  simp [forwardedFor?, first, text, head?_split, firstEntry]

theorem forwardedFor?_eq_some_iff
    {headers : Headers}
    {name : List Char} :
    forwardedFor? headers = some name ↔ Names headers name := by
  constructor
  · intro read
    cases first : headers.first? "x-forwarded-for" with
    | none => simp [forwardedFor?, first] at read
    | some value =>
        by_cases readable : ∀ byte ∈ value, isReadable byte = true
        · rw [forwardedFor?_of_readable first readable] at read
          split at read
          · cases read
          · next nonempty =>
              cases read
              exact ⟨nonempty, value, first, readable, rfl⟩
        · obtain ⟨byte, listed, odd⟩ :
              ∃ byte ∈ value, isReadable byte = false := by
            simpa using readable
          simp [forwardedFor?, first, readable?_of_odd listed odd] at read
  · rintro ⟨nonempty, value, first, readable, rfl⟩
    rw [forwardedFor?_of_readable first readable, if_neg nonempty]

theorem forwardedFor?_eq_none_iff {headers : Headers} :
    forwardedFor? headers = none ↔ NamesNobody headers := by
  constructor
  · intro unread
    cases first : headers.first? "x-forwarded-for" with
    | none => exact .absent first
    | some value =>
        by_cases readable : ∀ byte ∈ value, isReadable byte = true
        · rw [forwardedFor?_of_readable first readable] at unread
          split at unread
          · next blank => exact .blank first readable (trim_eq_nil_iff.1 blank)
          · cases unread
        · obtain ⟨byte, listed, odd⟩ :
              ∃ byte ∈ value, isReadable byte = false := by
            simpa using readable
          exact .unreadable first listed odd
  · intro nobody
    cases nobody with
    | absent missing => simp [forwardedFor?, missing]
    | unreadable first listed odd =>
        simp [forwardedFor?, first, readable?_of_odd listed odd]
    | blank first readable blank =>
        rw [forwardedFor?_of_readable first readable,
          if_pos (trim_eq_nil_iff.2 blank)]

/-! ## Whom a request is counted for -/

theorem bearerToken?_eq_none_iff {headers : Headers} :
    bearerToken? headers = none ↔
      ∀ value ∈ headers.first? "authorization",
        ¬Utf8.ofAscii "Bearer ".toList <+: value := by
  refine ⟨?_, bearerToken?_eq_none⟩
  rintro none value presented ⟨token, rfl⟩
  rw [bearerToken?_eq_some_iff.2 presented] at none
  cases none

theorem client_eq_peer_iff
    {resolver : Resolver}
    {request : Request}
    {peer : Address} :
    resolver.client request = .peer (some peer) ↔
      resolver.CountsPeer request peer := by
  constructor
  · intro counted
    rw [client] at counted
    cases token : bearerToken? request.headers with
    | some token => simp [token] at counted
    | none =>
        have bare := bearerToken?_eq_none_iff.1 token
        cases named : forwardedFor? request.headers with
        | none =>
            simp only [token, named, Client.peer.injEq] at counted
            exact ⟨⟨counted, bare⟩, .inl (forwardedFor?_eq_none_iff.1 named)⟩
        | some name =>
            simp only [token, named] at counted
            split at counted
            · cases counted
            · next doubted =>
                rw [Client.peer.injEq] at counted
                rw [counted] at doubted
                exact ⟨⟨counted, bare⟩, .inr (Bool.eq_false_iff.2 doubted)⟩
  · rintro ⟨⟨origin, bare⟩, unnamed⟩
    have token := bearerToken?_eq_none bare
    obtain nobody | doubted := unnamed
    · rw [client, token, forwardedFor?_eq_none_iff.2 nobody]
      exact congrArg Client.peer origin
    · rw [client_of_doubted doubted origin, token]
      rfl

theorem client_eq_forwarded_iff
    {resolver : Resolver}
    {request : Request}
    {name : List Char} :
    resolver.client request = .forwarded name ↔
      resolver.CountsNamed request name := by
  rw [client]
  constructor
  · intro counted
    cases token : bearerToken? request.headers with
    | some token => simp [token] at counted
    | none =>
        have bare := bearerToken?_eq_none_iff.1 token
        cases named : forwardedFor? request.headers with
        | none => simp [token, named] at counted
        | some first =>
            simp only [token, named] at counted
            split at counted
            · next believed =>
                cases counted
                refine ⟨bare, forwardedFor?_eq_some_iff.1 named, ?_⟩
                intro peer origin
                rwa [peerAddress, origin] at believed
            · cases counted
  · rintro ⟨bare, named, believed⟩
    rw [bearerToken?_eq_none bare, forwardedFor?_eq_some_iff.2 named]
    apply if_pos
    cases origin : request.peer.map Endpoint.address with
    | none => rw [peerAddress, origin]; rfl
    | some peer =>
        rw [peerAddress, origin]
        exact believed peer origin

/-! ## Keys -/

theorem resolve_of_countsPeer
    {resolver : Resolver}
    {request : Request}
    {peer : Address}
    (counted : resolver.CountsPeer request peer) :
    resolver.resolve request = "ip:" ++ String.ofList peer.print := by
  rw [resolve, client_eq_peer_iff.2 counted]
  rfl

theorem resolve_of_countsNamed
    {resolver : Resolver}
    {request : Request}
    {name : List Char}
    (counted : resolver.CountsNamed request name) :
    resolver.resolve request = "ip:" ++ String.ofList name := by
  rw [resolve, client_eq_forwarded_iff.2 counted]
  rfl

/-- The keys of two addresses are the same only if their texts are. -/
theorem addressKey_inj {first second : List Char} :
    "ip:" ++ String.ofList first = "ip:" ++ String.ofList second ↔
      first = second := by
  rw [String.append_right_inj, String.ofList_inj]

/-- No address is printed as the text that stands for an unknown peer. -/
theorem print_ne_unknown (peer : Address) : peer.print ≠ "unknown".toList := by
  intro same
  have read := Address.read?_print peer
  have unread : Address.read? "unknown".toList = none := by decide +kernel
  rw [same, unread] at read
  cases read

/-- A request is counted for a known peer, or for a client that a header names, in
exactly the cases described.  Two requests that are counted for known peers share
a key exactly if the peers have the same address, whatever their ports.  Such a
key is not the one of unknown peers, and it is the key of a named client exactly
if the name is the text of the address. -/
theorem peers_share_key_iff_same_address
    (resolver : Resolver)
    {first second : Request}
    {firstPeer secondPeer : Address}
    (firstCounted : resolver.CountsPeer first firstPeer)
    (secondCounted : resolver.CountsPeer second secondPeer) :
    (resolver.resolve first = resolver.resolve second ↔
        firstPeer = secondPeer) ∧
      resolver.resolve first ≠ "ip:unknown" ∧
      (∀ named name, resolver.CountsNamed named name →
        (resolver.resolve first = resolver.resolve named ↔
          name = firstPeer.print)) ∧
      (∀ request peer, resolver.client request = .peer (some peer) ↔
        resolver.CountsPeer request peer) ∧
      ∀ request name, resolver.client request = .forwarded name ↔
        resolver.CountsNamed request name := by
  have key := resolve_of_countsPeer firstCounted
  refine ⟨?peers, ?known, ?named, fun _ _ => client_eq_peer_iff,
    fun _ _ => client_eq_forwarded_iff⟩
  case peers =>
    rw [key, resolve_of_countsPeer secondCounted, addressKey_inj,
      Address.print_injective.eq_iff]
  case known =>
    have unknown : "ip:unknown" = "ip:" ++ String.ofList "unknown".toList := rfl
    rw [key, unknown, ne_eq, addressKey_inj]
    exact print_ne_unknown firstPeer
  case named =>
    intro named name counted
    rw [key, resolve_of_countsNamed counted, addressKey_inj, eq_comm]

/-- One host seen under an IPv4 address and under the IPv6 address that it is mapped
to, the one with a header that is not believed and the other with a header that
cannot be read: the keys differ.  A trusted proxy that names the latter address
shares its key. -/
theorem mapped_peer_apart_from_plain :
    let resolver : Resolver := { proxies := .ofEntries ["10.0.0.0/8"] }
    let plain : Address := .v4 (BitVec.ofNat 32 0xCB00_7109)
    let mapped : Address := .v6 (BitVec.ofNat 128 0xFFFF_CB00_7109)
    let proxy : Address := .v4 (BitVec.ofNat 32 0x0A00_0001)
    let request (peer : Address) (forwarded : Bytes) : Request :=
      { method := "GET"
        target := "/api/ping"
        headers := { fields := [("x-forwarded-for", forwarded)] }
        peer := some { address := peer, scope := 0, port := 50000 } }
    let first := request plain (Utf8.ofAscii "198.51.100.1".toList)
    let second := request mapped [0x31, 0xE9]
    let named := request proxy
      (Utf8.ofAscii "\t::ffff:203.0.113.9 , 10.0.0.2".toList)
    resolver.CountsPeer first plain ∧ resolver.CountsPeer second mapped ∧
      resolver.CountsNamed named "::ffff:203.0.113.9".toList ∧
      resolver.resolve first ≠ resolver.resolve second ∧
      resolver.resolve second ≠ "ip:unknown" ∧
      resolver.resolve second = resolver.resolve named := by
  intro resolver plain mapped proxy request first second named
  have firstCounted : resolver.CountsPeer first plain :=
    { bare := by decide +kernel
      unnamed := .inr (by decide +kernel) }
  have secondCounted : resolver.CountsPeer second mapped :=
    { bare := by decide +kernel
      unnamed := .inl (.unreadable rfl (List.mem_cons_of_mem _ List.mem_cons_self)
        (by decide)) }
  have namedCounted : resolver.CountsNamed named "::ffff:203.0.113.9".toList :=
    client_eq_forwarded_iff.1 (by decide +kernel)
  obtain ⟨distinct, -, -, -⟩ :=
    peers_share_key_iff_same_address resolver firstCounted secondCounted
  obtain ⟨-, known, shared, -⟩ :=
    peers_share_key_iff_same_address resolver secondCounted secondCounted
  exact ⟨firstCounted, secondCounted, namedCounted,
    fun same => absurd (distinct.1 same) (by decide), known,
    (shared named _ namedCounted).2 (by decide +kernel)⟩

end Resolver
end Turnstile
