import Prelaunch.Config
import Prelaunch.Http.Network

/-!
A client that follows redirects. It follows no more of them than it is told, names to each host the
page that sent it there, and gives up when an answer takes too long.
-/

namespace Prelaunch.Http

/-- Why there is no answer. -/
inductive Failure where
  | unusableRequest
  | unsupportedScheme (url : String)
  | notSent (url : String)
  | timedOut (url : String)
  | tooManyRedirects (url : String)
  | brokenBody
  | lateBody
  deriving DecidableEq, Repr

namespace Failure

def message : Failure → String
  | .unusableRequest => "builder error"
  | .unsupportedScheme url => "builder error for url (" ++ url ++ ")"
  | .notSent url => "error sending request for url (" ++ url ++ ")"
  | .timedOut url => "error sending request for url (" ++ url ++ ")"
  | .tooManyRedirects url => "error following redirect for url (" ++ url ++ ")"
  | .brokenBody => "error decoding response body"
  | .lateBody => "error decoding response body"

/-- The client has waited for too long. -/
def isTimeout : Failure → Bool
  | .timedOut _ | .lateBody => true
  | _ => false

end Failure

def Response.read (r : Response) : Except Failure Bytes :=
  if r.isBodyless then .ok []
  else match r.ending with
    | .whole => .ok r.body
    | .broken => .error .brokenBody
    | .late => .error .lateBody

structure Client where
  userAgent : Bytes
  maxRedirects : Nat
  patience : Patience
  deriving DecidableEq, Repr

/-- The requests of one exchange in order, and what came of it. -/
structure Exchange where
  sent : List Request
  outcome : Except Failure Response

namespace Client

def make (s : HttpSettings) : Except Failure Client :=
  match Header.value? s.userAgent with
  | .ok value => .ok ⟨value, s.maxRedirects, ⟨s.connectTimeout, s.requestTimeout⟩⟩
  | .error _ => .error .unusableRequest

def defaultHeaders (c : Client) : List Header :=
  [⟨"accept", Utf8.encode "*/*", false⟩, ⟨"user-agent", c.userAgent, false⟩]

def userInfoHeader? (u : Url) : Option Header :=
  if u.username.isEmpty && u.password.isEmpty then none
  else
    let plain (s : String) : Bytes := Url.Percent.decode (Utf8.encode s)
    some (basicHeader (plain u.username) (plain u.password))

/-- The first request. A header of the caller's stands in for a default one of its name. -/
def firstRequest (c : Client) (u : Url) (extra : List Header) : Request :=
  let kept := c.defaultHeaders.filter fun h => !extra.any (·.name == h.name)
  ⟨u.withoutUserInfo, kept ++ (userInfoHeader? u).toList ++ extra⟩

/-- No page under a secure scheme is named to a host under another. -/
def referer? (hop : Hop) : Option Header :=
  if hop.source.scheme == "https" && hop.target.scheme != "https" then none
  else some ⟨"referer", Utf8.encode hop.source.plain.text, false⟩

/-- The request after a redirect and those before it: the first one at another place, as far as its
headers go along. -/
def redirected (net : Network) (first : Request) (hop : Hop) (before : List Hop) : Request :=
  let kept := first.headers.filter (net.carries (hop :: before) ·.name)
  let headers := match referer? hop with
    | some referer => kept.filter (·.name != "referer") ++ [referer]
    | none => kept
  ⟨hop.target.withoutUserInfo, headers⟩

/-- Sends a request, and one more for each redirect while `budget` lasts. -/
def follow (net : Network) (patience : Patience) (first : Request) :
    Nat → List Hop → Request → Exchange
  | budget, hops, r =>
    match net.send patience r with
    | .refused => ⟨[], .error (.notSent first.url.text)⟩
    | .unconnected => ⟨[], .error (.timedOut first.url.text)⟩
    | .dropped => ⟨[r], .error (.notSent first.url.text)⟩
    | .unanswered => ⟨[r], .error (.timedOut first.url.text)⟩
    | .answered response =>
      match net.target? r.url response with
      | none => ⟨[r], .ok response⟩
      | some target =>
        match budget with
        | 0 => ⟨[r], .error (.tooManyRedirects r.url.text)⟩
        | budget + 1 =>
          if target.isFetchable then
            let hop : Hop := ⟨response.status, r.url, target⟩
            let rest := follow net patience first budget (hop :: hops)
              (redirected net first hop hops)
            ⟨r :: rest.sent, rest.outcome⟩
          else ⟨[r], .error (.unsupportedScheme target.text)⟩

def get (c : Client) (net : Network) (url : String) (extra : List Header) : Exchange :=
  match Url.parse url with
  | .error _ => ⟨[], .error .unusableRequest⟩
  | .ok u =>
    if u.isFetchable then
      let first := c.firstRequest u extra
      follow net c.patience first c.maxRedirects [] first
    else ⟨[], .error (.unsupportedScheme u.withoutUserInfo.text)⟩

end Client

end Prelaunch.Http
