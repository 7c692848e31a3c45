import Prelaunch.Header
import Prelaunch.Http.Base64
import Prelaunch.Url

/-!
Requests and the answers to them.
-/

namespace Prelaunch.Http

/-- All requests ask for the content of their URL. -/
structure Request where
  url : Url
  headers : List Header
  deriving DecidableEq, Repr

/-- How the body of an answer ends: it may break off before as many bytes have come as were
announced, or take longer than the client waits. -/
inductive Ending where
  | whole
  | broken
  | late
  deriving DecidableEq, Repr

structure Response where
  status : Nat
  headers : List (String × Bytes)
  body : Bytes
  ending : Ending := .whole
  deriving DecidableEq, Repr

/-- What comes of a request. Without a connection it is not sent: the host does not take one, or not
within the time for which the client waits. Once it has been sent, there may be no answer to it, or
none in time. -/
inductive Reply where
  | refused
  | unconnected
  | dropped
  | unanswered
  | answered (response : Response)
  deriving DecidableEq, Repr

namespace Response

def isSuccess (r : Response) : Bool := 200 ≤ r.status && r.status < 300

def isRedirect (r : Response) : Bool := [301, 302, 303, 307, 308].contains r.status

/-- Answers of these kinds have no body, whatever is sent. -/
def isBodyless (r : Response) : Bool := r.status == 204 || r.status == 304

def header? (r : Response) (name : String) : Option Bytes :=
  (r.headers.find? fun (n, _) => Text.asciiLower n == name).map (·.2)

end Response

/-- The header by which a user proves who they are with a name and a password. -/
def basicHeader (name password : Bytes) : Header :=
  ⟨"authorization", Utf8.encode "Basic " ++ Base64.encode (name ++ [0x3A] ++ password), true⟩

end Prelaunch.Http
