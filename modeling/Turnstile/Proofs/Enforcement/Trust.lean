import Turnstile.Proofs.Enforcement.Forwarding
import Turnstile.Settings.Config

/-!
# What the configured entries make trusted

The entries of the trusted networks are texts, and those that are no ranges are
skipped.  As long as one of them is a range, a peer outside of all the ranges is
not believed, however many of its neighbours in the list were skipped.

Where none is a range, skipping leaves nothing, and nothing is what stands for
everyone: a list that was meant to narrow the trust then extends it to all
peers.  A whole list can be lost to one wrong separator.
-/

namespace Turnstile

open Http Net Settings Text

namespace Net

/-- Whether a configured entry is a range. -/
def isRange (entry : String) : Bool :=
  (Cidr.read entry.toList).toBool

/-- Whether a configured entry is a range with a given address in it. -/
def covers (entry : String) (address : Address) : Bool :=
  (Cidr.read entry.toList).toOption.any fun range => range.contains address

namespace TrustedProxies

theorem isEnabled_ofEntries (entries : List String) :
    (ofEntries entries).isEnabled = entries.any isRange := by
  induction entries with
  | nil => rfl
  | cons entry entries inductionHypothesis =>
      rw [List.any_cons, ← inductionHypothesis]
      cases parsed : Cidr.read entry.toList <;>
        simp [isEnabled, ofEntries, isRange, parsed, Except.toOption,
          Except.toBool]

theorem any_contains_ofEntries (entries : List String) (address : Address) :
    (ofEntries entries).ranges.any (fun range => range.contains address) =
      entries.any (covers · address) := by
  induction entries with
  | nil => rfl
  | cons entry entries inductionHypothesis =>
      rw [List.any_cons, ← inductionHypothesis]
      cases parsed : Cidr.read entry.toList <;>
        simp [ofEntries, covers, parsed, Except.toOption]

/-- A peer is trusted if no entry is a range or if it lies in one of them. -/
theorem trusts_ofEntries (entries : List String) (peer : Address) :
    (ofEntries entries).trusts peer =
      (!entries.any isRange || entries.any (covers · peer)) := by
  rw [trusts, isEnabled_ofEntries, any_contains_ofEntries]

/-- A peer outside of all ranges is distrusted exactly where there is a range. -/
theorem trusts_eq_any_isRange
    {entries : List String}
    {peer : Address}
    (outside : ∀ entry ∈ entries, covers entry peer = false) :
    (ofEntries entries).trusts peer = !entries.any isRange := by
  have uncovered : entries.any (covers · peer) = false := by
    simpa using outside
  rw [trusts_ofEntries, uncovered, Bool.or_false]

end TrustedProxies
end Net

namespace Resolver

/-- Forwarding headers do not touch the bearer token. -/
theorem bearerToken?_eq_of_alike
    {first second : Request}
    (alike : AlikeButForwarding first second) :
    bearerToken? first.headers = bearerToken? second.headers := by
  rw [bearerToken?, bearerToken?, Headers.first?, Headers.first?,
    alike.values _ (by decide)]

/-- Configured trust is closed exactly where some entry is a range.  A peer outside
of all the ranges is then distrusted: its forwarding headers do not change the
key of a request, and a request without a bearer token is counted under its
address. -/
theorem distrusted_iff_any_isRange
    (entries : List String)
    (peer : Address)
    (outside : ∀ entry ∈ entries, covers entry peer = false) :
    let resolver : Resolver := { proxies := .ofEntries entries }
    (resolver.proxies.trusts peer = false ↔
        ∃ entry ∈ entries, isRange entry = true) ∧
      ((∃ entry ∈ entries, isRange entry = true) →
        (∀ first second,
          first.peer.map Endpoint.address = some peer →
          AlikeButForwarding first second →
          resolver.resolve first = resolver.resolve second) ∧
        ∀ request, ComesBareFrom peer request →
          resolver.resolve request = "ip:" ++ String.ofList peer.print) := by
  intro resolver
  have trusted := TrustedProxies.trusts_eq_any_isRange outside
  have closed : resolver.proxies.trusts peer = false ↔
      ∃ entry ∈ entries, isRange entry = true := by
    rw [trusted, Bool.not_eq_false', List.any_eq_true]
  refine ⟨closed, ?keys⟩
  case keys =>
    intro configured
    have doubted : resolver.believes (some peer) = false := closed.2 configured
    refine ⟨?ignored, fun request bare => resolve_of_bare doubted bare⟩
    case ignored =>
      intro first second origin alike
      have originSecond := alike.peer ▸ origin
      rw [resolve, resolve, client_of_doubted doubted origin,
        client_of_doubted doubted originSecond, bearerToken?_eq_of_alike alike]

/-- One range and one text that is none: a peer outside of the range is counted under
its address, whomever it names and in whichever header. -/
theorem distrusted_beside_skipped_entry :
    let entries := readList "10.0.0.0/8, 10.0.0.0/33"
    let resolver : Resolver := { proxies := .ofEntries entries }
    let peer : Address := .v4 (BitVec.ofNat 32 0xCB00_7109)
    let request (name : String) : Request :=
      { method := "GET"
        target := "/api/ping"
        headers := { fields := [("x-forwarded-for", Utf8.ofAscii name.toList)] }
        peer := some { address := peer, scope := 0, port := 50000 } }
    (∀ entry ∈ entries, covers entry peer = false) ∧
      entries.map isRange = [true, false] ∧
      resolver.proxies.trusts peer = false ∧
      resolver.resolve (request "198.51.100.1") = "ip:203.0.113.9" ∧
      resolver.resolve (request "10.0.0.1") =
        resolver.resolve (request "198.51.100.1") := by
  intro entries resolver peer request
  have outside : ∀ entry ∈ entries, covers entry peer = false := by
    decide +kernel
  have configured : ∃ entry ∈ entries, isRange entry = true := by
    decide +kernel
  obtain ⟨closed, keyed⟩ := distrusted_iff_any_isRange entries peer outside
  obtain ⟨ignored, counted⟩ := keyed configured
  have bare : ComesBareFrom peer (request "198.51.100.1") := by decide +kernel
  have alike : AlikeButForwarding (request "10.0.0.1")
      (request "198.51.100.1") :=
    { method := rfl
      target := rfl
      peer := rfl
      values := fun name other => by
        simp [request, Headers.values, Ne.symm other] }
  exact ⟨outside, by decide +kernel, closed.2 configured,
    (counted _ bare).trans (by decide +kernel), ignored _ _ rfl alike⟩

/-- Two networks with a semicolon between them are one entry and no range.  Every peer
is then trusted, and the client that it names is the one that is counted. -/
theorem everyone_trusted_after_wrong_separator :
    let entries := readList "10.0.0.0/8;172.16.0.0/12"
    let resolver : Resolver := { proxies := .ofEntries entries }
    let peer : Address := .v4 (BitVec.ofNat 32 0xCB00_7109)
    let request : Request :=
      { method := "GET"
        target := "/api/ping"
        headers := { fields :=
          [("x-forwarded-for", Utf8.ofAscii "198.51.100.1".toList)] }
        peer := some { address := peer, scope := 0, port := 50000 } }
    entries ≠ [] ∧ (∀ entry ∈ entries, covers entry peer = false) ∧
      ComesBareFrom peer request ∧ resolver.proxies.trusts peer = true ∧
      resolver.resolve request = "ip:198.51.100.1" ∧
      resolver.resolve request ≠ "ip:" ++ String.ofList peer.print := by
  decide +kernel

end Resolver
end Turnstile
