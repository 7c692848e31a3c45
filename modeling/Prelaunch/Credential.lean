import Prelaunch.Header
import Prelaunch.Url

/-!
Which header, if any, a download carries. A header of the operator's own goes with every download;
without one, the token of a storage provider goes with those of its own URLs.
-/

namespace Prelaunch

/-- The token of a storage provider, and what is known of the URLs it is meant for. -/
structure ProviderScheme where
  header : Header
  downloadBase : Option String
  domain : String
  deriving DecidableEq, Repr

namespace ProviderScheme

/-- An empty base is no base. -/
def make (header : Header) (base : Option String) (domain : String) : ProviderScheme :=
  ⟨header, base.filter (!·.isEmpty), domain⟩

/-- A longer URL lies under the base only where a new part of it begins. -/
def isUnder (base url : String) : Bool :=
  match Text.dropStart? base url with
  | none => false
  | some rest =>
    Text.endsWith "/" base || rest.isEmpty || ["/", "?", "#"].any (Text.startsWith · rest)

/-- Whether the host of the URL is the domain or one below it. -/
def isHostIn (domain url : String) : Bool :=
  match Url.parse url with
  | .error _ => false
  | .ok u => match u.hostText? with
    | none => false
    | some host =>
      let domain := Text.asciiLower domain
      host == domain || Text.endsWith ("." ++ domain) host

def appliesTo (s : ProviderScheme) (url : String) : Bool :=
  s.downloadBase.any (isUnder · url) || isHostIn s.domain url

end ProviderScheme

/-- What is chosen for one URL. -/
inductive AuthChoice where
  | nothing
  | explicit (header : Header)
  | provider (scheme : ProviderScheme)
  deriving DecidableEq, Repr

namespace AuthChoice

def header? : AuthChoice → Option Header
  | .nothing => none
  | .explicit header => some header
  | .provider scheme => some scheme.header

def label : AuthChoice → String
  | .nothing => "none"
  | .explicit _ => "explicit"
  | .provider _ => "third-party"

end AuthChoice

structure Broker where
  explicit : Option Header
  provider : Option ProviderScheme
  deriving DecidableEq, Repr

namespace Broker

def choose (b : Broker) (url : String) : AuthChoice :=
  match b.explicit, b.provider with
  | some header, _ => .explicit header
  | none, some scheme => if scheme.appliesTo url then .provider scheme else .nothing
  | none, none => .nothing

end Broker

end Prelaunch
