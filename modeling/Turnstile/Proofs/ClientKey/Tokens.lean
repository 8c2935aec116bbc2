import Turnstile.ClientKey
import Turnstile.Proofs.Text.Decoding

/-!
# Keys of bearers

A bearer token counts by its first characters.  They are cut from the decoded
token, in which bytes that are no UTF-8 have been replaced, and where a replaced
part ends depends on what follows it.  No character depends on more than four
bytes, though, so the key is settled by the first bytes of the token, and a token
of any length has a short key.

Nothing else enters into the key: neither the other headers nor the peer, nor
whom the resolver trusts.
-/

namespace Turnstile

open Http Net Text

/-- Whether the first authorization value of a request presents a bearer token. -/
def PresentsToken (token : Bytes) (request : Request) : Prop :=
  request.headers.first? "authorization" =
    some (Utf8.ofAscii "Bearer ".toList ++ token)

instance decidablePresentsToken (token : Bytes) (request : Request) :
    Decidable (PresentsToken token request) :=
  inferInstanceAs (Decidable (_ = _))

namespace Resolver

/-- A token that is presented is what the request is counted under. -/
theorem resolve_of_presentsToken
    (resolver : Resolver)
    {token : Bytes}
    {request : Request}
    (presented : PresentsToken token request) :
    resolver.resolve request =
      "user:" ++ String.ofList ((Utf8.decode token).take Client.maxTokenChars) := by
  rw [resolve, client, bearerToken?_eq_some_iff.2 presented]
  rfl

/-- Tokens with the same first bytes have the same first characters. -/
theorem take_decode_congr
    {token other : Bytes}
    {count : Nat}
    (same : other.take (4 * count) = token.take (4 * count)) :
    (Utf8.decode other).take count = (Utf8.decode token).take count := by
  rw [← Utf8.take_decode_take, same, Utf8.take_decode_take]

/-- Every token has a name of at most 32 characters and 128 bytes, which for the
UTF-8 of a text is made of the first 32 characters of the text.  Under it every
request is counted that presents the token, or any other with the same first 128
bytes, whatever its other headers and its peer are and whomever the resolver
trusts. -/
theorem token_key_of_first_bytes (token : Bytes) :
    ∃ name : String,
      name.length ≤ 32 ∧
        name.utf8ByteSize ≤ 128 ∧
        (∀ text, Utf8.encode text = token →
          name.toList = text.toList.take 32) ∧
        ∀ other : Bytes, other.take 128 = token.take 128 →
          ∀ (resolver : Resolver) (request : Request),
            PresentsToken other request →
            resolver.resolve request = "user:" ++ name := by
  have short : ((Utf8.decode token).take 32).length ≤ 32 := List.length_take_le ..
  refine ⟨String.ofList ((Utf8.decode token).take 32), ?length, ?size, ?text,
    ?keyed⟩
  case length =>
    rwa [String.length_ofList]
  case size =>
    have bytes := Utf8.utf8ByteSize_ofList_le ((Utf8.decode token).take 32)
    omega
  case text =>
    rintro text rfl
    rw [String.toList_ofList, Utf8.take_decode_encode]
  case keyed =>
    intro other same resolver request presented
    rw [resolve_of_presentsToken resolver presented, Client.maxTokenChars,
      take_decode_congr same]

/-- A token whose thirty-second character breaks off, and another one that differs
from it after 128 bytes: a resolver that trusts nobody and one that trusts everyone
count both under the same key. -/
theorem token_key_of_broken_token :
    let smile : Bytes := [0xF0, 0x9F, 0x98, 0x80]
    let start : Bytes :=
      (List.replicate 31 smile).flatten ++ [0xE2, 0x82, 0x41, 0x42]
    let token : Bytes := start ++ [0x43]
    let other : Bytes := start ++ [0xFF, 0x20]
    let request (token : Bytes) (headers : List (String × Bytes)) : Request :=
      { method := "GET"
        target := "/api/ping"
        headers := { fields :=
          ("authorization", Utf8.ofAscii "Bearer ".toList ++ token) :: headers }
        peer := some
          { address := .v4 (BitVec.ofNat 32 0xCB00_7109), scope := 0, port := 443 } }
    let doubting : Resolver := { proxies := .ofEntries ["10.0.0.0/8"] }
    let bare := request token []
    let named := request other [("x-forwarded-for", Utf8.ofAscii "::1".toList)]
    other.take 128 = token.take 128 ∧ PresentsToken token bare ∧
      PresentsToken other named ∧
      doubting.resolve bare = trusting.resolve named ∧
      doubting.resolve bare =
        "user:" ++ String.ofList (List.replicate 31 '😀' ++ ['\uFFFD']) := by
  intro smile start token other request doubting bare named
  have same : other.take 128 = token.take 128 := by decide +kernel
  have presented : PresentsToken token bare := by decide +kernel
  have otherPresented : PresentsToken other named := by decide +kernel
  obtain ⟨name, -, -, -, keyed⟩ := token_key_of_first_bytes token
  exact ⟨same, presented, otherPresented,
    (keyed token rfl doubting bare presented).trans
      (keyed other same trusting named otherPresented).symm,
    by decide +kernel⟩

end Resolver
end Turnstile
