import Prelaunch.Text.Utf8
import Prelaunch.Url.Address
import Prelaunch.Url.Idna
import Prelaunch.Url.Percent

/-!
Hosts of URLs: a domain name in ASCII, a numeric address, or, under a scheme that is not one of the
web's own, any name.
-/

namespace Prelaunch

inductive UrlError where
  | relativeWithoutBase
  | emptyHost
  | invalidPort
  | invalidShortAddress
  | invalidLongAddress
  | invalidDomain
  | invalidDomainCharacter
  deriving DecidableEq, Repr

def UrlError.message : UrlError → String
  | .relativeWithoutBase => "relative URL without a base"
  | .emptyHost => "empty host"
  | .invalidPort => "invalid port number"
  | .invalidShortAddress => "invalid IPv4 address"
  | .invalidLongAddress => "invalid IPv6 address"
  | .invalidDomain => "invalid international domain name"
  | .invalidDomainCharacter => "invalid domain character"

namespace Url

inductive Host where
  | domain (name : String)
  | short (address : Nat)
  | long (groups : List Nat)
  | other (name : String)
  deriving DecidableEq, Repr

namespace Host

def text : Host → String
  | .domain name => name
  | .short address => Address.shortText address
  | .long groups => "[" ++ Address.longText groups ++ "]"
  | .other name => name

def isForbidden (c : Char) : Bool :=
  "\x00\t\n\r #/:<>?@[\\]^|".toList.contains c

def isForbiddenInDomain (c : Char) : Bool :=
  isForbidden c || c.toNat < 0x20 || c == '%' || c == '\x7F'

/-- An address between brackets. -/
def bracketed (cs : List Char) : Except UrlError Host :=
  if cs.getLast? != some ']' then .error .invalidLongAddress
  else match Address.long? (cs.drop 1).dropLast with
    | some groups => .ok (.long groups)
    | none => .error .invalidLongAddress

def domainName (cs : List Char) : Except UrlError (List Char) :=
  match (Utf8.decode? (Percent.decode (Utf8.encode (String.ofList cs)))).bind
      fun name => Idna.toAscii name.toList with
  | none => .error .invalidDomain
  | some name => if name.any isForbiddenInDomain then .error .invalidDomain else .ok name

/-- The host of a URL with one of the web's own schemes. -/
def parseSpecial (cs : List Char) : Except UrlError Host :=
  if cs.head? == some '[' then bracketed cs
  else do
    let name ← domainName cs
    if name.isEmpty then throw .emptyHost
    if Address.endsInNumber name then
      match Address.short? name with
      | some address => return .short address
      | none => throw .invalidShortAddress
    return .domain (String.ofList name)

def parseOther (cs : List Char) : Except UrlError Host :=
  if cs.head? == some '[' then bracketed cs
  else if cs.any isForbidden then .error .invalidDomainCharacter
  else .ok (.other (String.ofList (Percent.encode Percent.inControl cs)))

end Host

end Url

end Prelaunch
