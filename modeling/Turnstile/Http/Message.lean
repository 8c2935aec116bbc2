import Turnstile.Http.Headers
import Turnstile.Http.Target
import Turnstile.Net.Endpoint

/-!
# Requests and responses

The parts of a message that admission control looks at or writes.
-/

namespace Turnstile
namespace Http

/-- A request, and the endpoint it came from where that is known. -/
structure Request where
  method : String
  target : String
  headers : Headers
  peer : Option Net.Endpoint
deriving DecidableEq, Repr

namespace Request

/-- The path that a request asks for. -/
def path (request : Request) : String :=
  Target.path request.target

end Request

/-- A response with a text body. -/
structure Response where
  status : Nat
  headers : Headers
  body : String
deriving DecidableEq, Repr

namespace Response

/-- A response of a status alone. -/
def ofStatus (status : Nat) : Response where
  status := status
  headers := .empty
  body := ""

/-- A response with a JSON body. -/
def ofJson (status : Nat) (body : String) : Response where
  status := status
  headers := Headers.empty.set "content-type"
    (Text.Utf8.ofAscii "application/json".toList)
  body := body

end Response
end Http
end Turnstile
