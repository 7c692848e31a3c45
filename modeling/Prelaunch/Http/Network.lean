import Prelaunch.Http.Message

/-!
What a client relies on: the hosts that answer, and the code by which redirects are followed. Neither
is part of the program, so both may be anything; what is known of them is assumed where it is needed.
-/

namespace Prelaunch.Http

/-- How long a client waits, in seconds: for a connection, and for a whole exchange. -/
structure Patience where
  connect : Nat
  exchange : Option Nat
  deriving DecidableEq, Repr

/-- A redirect that has been followed. -/
structure Hop where
  status : Nat
  source : Url
  target : Url
  deriving DecidableEq, Repr

def isSameHost (a b : Url) : Bool :=
  a.hostText? == b.hostText? && a.effectivePort? == b.effectivePort?

/-- The redirect does not leave the host. -/
def Hop.stays (h : Hop) : Bool := isSameHost h.source h.target

/-! Which headers go along. -/

/-- Headers that are for one host only. -/
def guardedNames : List String :=
  ["authorization", "cookie", "cookie2", "proxy-authorization", "www-authenticate"]

/-- Headers that describe a body. -/
def payloadNames : List String :=
  ["content-encoding", "content-length", "content-type", "transfer-encoding"]

/-- Whether a header of the first request goes along after some redirects (the last one first), given
when the guarded ones do. An answer that says to look elsewhere ends the use of a body. -/
def carriesIf (guarded : List Hop → Bool) (hops : List Hop) (name : String) : Bool :=
  (guarded hops || !guardedNames.contains name) &&
    (hops.all (·.status != 303) || !payloadNames.contains name)

/-- Goes by the last redirect alone, so that a guarded header comes back on the next page of another
host. -/
def carriesByLast : List Hop → String → Bool := carriesIf fun hops => hops.head?.all (·.stays)

/-- Guarded headers that have been dropped once do not come back. -/
def carriesForGood : List Hop → String → Bool := carriesIf fun hops => hops.all (·.stays)

structure Network where
  /-- What comes of a request. The fragment and the user information of its URL are not part of it,
  and whether an answer is in time depends on how long the client waits. -/
  reply : Patience → Request → Reply
  /-- The URL that an answer refers to, as seen from the URL that was asked for. -/
  resolve : Url → Bytes → Option Url := fun base reference =>
    (Utf8.decode? reference).bind fun s => (base.resolve s).toOption
  /-- Whether a header of the first request (by name) goes along after some redirects, the last one
  first. -/
  carries : List Hop → String → Bool := carriesByLast

namespace Network

/-- The network of a machine without a connection. -/
def unreachable : Network where
  reply _ _ := .refused

/-- What comes of a request as it goes out. -/
def send (net : Network) (patience : Patience) (r : Request) : Reply :=
  net.reply patience ⟨r.url.plain, r.headers⟩

/-- Where an answer sends the client instead, if it names a URL. -/
def target? (net : Network) (base : Url) (r : Response) : Option Url :=
  if r.isRedirect then (r.header? "location").bind (net.resolve base) else none

/-- A header of this name that is dropped when a redirect leaves the host does not come back. -/
def DropsForGood (net : Network) (name : String) : Prop :=
  ∀ hops, net.carries hops name = true → ∀ hop ∈ hops, hop.stays = true

/-- A header of this name goes along as long as no redirect leaves the host. -/
def KeepsAtHost (net : Network) (name : String) : Prop :=
  ∀ hops : List Hop, (∀ hop ∈ hops, hop.stays = true) → net.carries hops name = true

/-- The hosts answer to the URL of a request, whatever its headers are. -/
def AnswersUrls (net : Network) : Prop :=
  ∀ patience (r r' : Request), r.url = r'.url → net.reply patience r = net.reply patience r'

end Network

end Prelaunch.Http
