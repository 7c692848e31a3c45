import Prelaunch.Url.Host

/-!
URLs in parts, and the text that is written for each.
-/

namespace Prelaunch

/-- The path is a list of segments where the URL has a hierarchy, and one text where it has none. -/
inductive UrlPath where
  | segments (names : List String)
  | plain (text : String)
  deriving DecidableEq, Repr

structure Url where
  scheme : String
  username : String
  password : String
  host : Option Url.Host
  port : Option Nat
  path : UrlPath
  query : Option String
  fragment : Option String
  deriving DecidableEq, Repr

namespace Url

/-- The schemes of the web, with the port that each has if none is given. -/
def specialSchemes : List (String × Option Nat) :=
  [("http", some 80), ("https", some 443), ("ws", some 80), ("wss", some 443), ("ftp", some 21),
    ("file", none)]

def isSpecialScheme (scheme : String) : Bool := (specialSchemes.lookup scheme).isSome

def defaultPort? (scheme : String) : Option Nat := (specialSchemes.lookup scheme).join

def isSpecial (u : Url) : Bool := isSpecialScheme u.scheme

/-- The schemes over which files can be fetched. -/
def isFetchable (u : Url) : Bool := u.scheme == "http" || u.scheme == "https"

/-- The host as text, unless the URL has none or an empty one. -/
def hostText? (u : Url) : Option String := (u.host.map Host.text).filter (!·.isEmpty)

def effectivePort? (u : Url) : Option Nat := u.port.or (defaultPort? u.scheme)

def userInfoText (u : Url) : String :=
  if u.username.isEmpty && u.password.isEmpty then ""
  else if u.password.isEmpty then u.username ++ "@"
  else u.username ++ ":" ++ u.password ++ "@"

def portText (u : Url) : String := (u.port.map fun p => ":" ++ Nat.repr p).getD ""

def authorityText (u : Url) : String :=
  match u.host with
  | some h => "//" ++ u.userInfoText ++ h.text ++ u.portText
  | none => ""

def pathText (u : Url) : String :=
  match u.path with
  | .plain text => text
  | .segments names => String.join (names.map ("/" ++ ·))

/-- Keeps a path that begins with an empty segment from being read as a host. -/
def pathGuard (u : Url) : String :=
  match u.host, u.path with
  | none, .segments ("" :: _ :: _) => "/."
  | _, _ => ""

def queryText (u : Url) : String := (u.query.map ("?" ++ ·)).getD ""

def fragmentText (u : Url) : String := (u.fragment.map ("#" ++ ·)).getD ""

def text (u : Url) : String :=
  u.scheme ++ ":" ++ u.authorityText ++ u.pathGuard ++ u.pathText ++ u.queryText ++ u.fragmentText

def withoutUserInfo (u : Url) : Url := { u with username := "", password := "" }

def withoutFragment (u : Url) : Url := { u with fragment := none }

/-- The URL as it may be named to others. -/
def plain (u : Url) : Url := u.withoutUserInfo.withoutFragment

end Url

end Prelaunch
