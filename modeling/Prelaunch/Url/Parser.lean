import Prelaunch.Url.Basic

/-!
Reading URLs. White space around the text and every tab and line break in it is dropped first; then
the text is cut at the scheme, the authority, the path, the query and the fragment, in this order.
-/

namespace Prelaunch.Url

def isTrimmed (c : Char) : Bool := c.toNat ≤ 0x20

def isDropped (c : Char) : Bool := c == '\t' || c == '\n' || c == '\r'

def clean (s : String) : List Char :=
  ((s.toList.dropWhile isTrimmed).reverse.dropWhile isTrimmed).reverse.filter (!isDropped ·)

def isSchemeChar (c : Char) : Bool := c.isAlphanum || c == '+' || c == '-' || c == '.'

/-- The scheme in lower case, and what follows its colon. -/
def splitScheme? (cs : List Char) : Option (String × List Char) :=
  match cs with
  | [] => none
  | c :: _ =>
    match cs.dropWhile isSchemeChar with
    | ':' :: rest =>
      if c.isAlpha then some (String.ofList ((cs.takeWhile isSchemeChar).map Char.toLower), rest)
      else none
    | _ => none

/-- Ends the authority or a segment of the path. -/
def isSlash (special : Bool) (c : Char) : Bool := c == '/' || (special && c == '\\')

def endsPath (c : Char) : Bool := c == '?' || c == '#'

/-! Query and fragment. -/

def parseTail (special : Bool) (cs : List Char) : Option String × Option String :=
  let escapes := if special then Percent.inSpecialQuery else Percent.inQuery
  let query := match cs with
    | '?' :: rest => some (String.ofList (Percent.encode escapes (rest.takeWhile (· != '#'))))
    | _ => none
  let fragment := match cs.dropWhile (· != '#') with
    | '#' :: rest => some (String.ofList (Percent.encode Percent.inFragment rest))
    | _ => none
  (query, fragment)

/-! Path. -/

def lowerAscii (cs : List Char) : List Char := cs.map Char.toLower

def isOneDot (segment : List Char) : Bool :=
  ["." , "%2e"].any (·.toList == lowerAscii segment)

def isTwoDots (segment : List Char) : Bool :=
  ["..", ".%2e", "%2e.", "%2e%2e"].any (·.toList == lowerAscii segment)

def isDriveLetter : List Char → Bool
  | [a, b] => a.isAlpha && (b == ':' || b == '|')
  | _ => false

/-- A drive letter at the start of a file's path ends in a colon, and stays there. -/
def normalDrive (file : Bool) (before : List String) (segment : List Char) : List Char :=
  match segment with
  | [a, '|'] => if file && before.isEmpty && a.isAlpha then [a, ':'] else segment
  | _ => segment

def isPinned (file : Bool) : List String → Bool
  | [s] => file && (match s.toList with
      | [a, ':'] => a.isAlpha
      | _ => false)
  | _ => false

def dropLastSegment (file : Bool) (names : List String) : List String :=
  if isPinned file names then names else names.dropLast

/-- Adds one segment to those before it. Nothing but an empty name is left of a dot at the end. -/
def addSegment (file isLast : Bool) (names : List String) (segment : List Char) : List String :=
  if isTwoDots segment then
    dropLastSegment file names ++ (if isLast then [""] else [])
  else if isOneDot segment then
    names ++ (if isLast then [""] else [])
  else
    names ++ [String.ofList (normalDrive file names (Percent.encode Percent.inPath segment))]

def addSegments (file : Bool) : List String → List (List Char) → List String
  | names, [] => names
  | names, [segment] => addSegment file true names segment
  | names, segment :: rest => addSegments file (addSegment file false names segment) rest

/-- Reads a path below `names`; a slash before its first segment is not part of it. -/
def parseSegments (scheme : String) (names : List String) (cs : List Char) : List String :=
  addSegments (scheme == "file") names
    ((cs.takeWhile (!endsPath ·)).splitOnP (isSlash (isSpecialScheme scheme)))

def dropSlash (special : Bool) (cs : List Char) : List Char :=
  match cs with
  | c :: rest => if isSlash special c then rest else cs
  | [] => []

/-- The path after an authority. -/
def parsePath (scheme : String) (cs : List Char) : UrlPath :=
  let special := isSpecialScheme scheme
  if !special && (cs.head?.all endsPath) then .segments []
  else .segments (parseSegments scheme [] (dropSlash special cs))

/-! Authority. -/

def endsAuthority (special : Bool) (c : Char) : Bool := isSlash special c || endsPath c

structure UserInfo where
  username : List Char
  password : List Char

def parseUserInfo (cs : List Char) : UserInfo :=
  ⟨Percent.encode Percent.inUserInfo (cs.takeWhile (· != ':')),
    Percent.encode Percent.inUserInfo ((cs.dropWhile (· != ':')).drop 1)⟩

/-- The text up to the last `@` of the authority, if it has one, and what follows. -/
def splitUserInfo (special : Bool) (cs : List Char) : Option (List Char) × List Char :=
  let authority := cs.takeWhile (!endsAuthority special ·)
  let host := (authority.reverse.takeWhile (· != '@')).reverse
  if host.length == authority.length then (none, cs)
  else (some (authority.take (authority.length - host.length - 1)),
    cs.drop (authority.length - host.length))

/-- The length of the host, in which a colon between brackets does not begin the port. -/
def hostLength (special : Bool) : Bool → List Char → Nat
  | _, [] => 0
  | bracket, c :: rest =>
    if (c == ':' && !bracket) || endsAuthority special c then 0
    else 1 + hostLength special (if c == '[' then true else if c == ']' then false else bracket) rest

def maxPort : Nat := 65535

def isPortEnd (c : Char) : Bool := c == '/' || c == '\\' || endsPath c

/-- The port, unless it is the one that the scheme has anyway. -/
def parsePort (scheme : String) (cs : List Char) : Except UrlError (Option Nat × List Char) := do
  let digits := cs.takeWhile Char.isDigit
  let rest := cs.dropWhile Char.isDigit
  let port := digits.foldl (fun n c => n * 10 + (c.toNat - 0x30)) 0
  if maxPort < port || !rest.head?.all isPortEnd then throw .invalidPort
  if digits.isEmpty || defaultPort? scheme == some port then return (none, rest)
  return (some port, rest)

def parseHost (scheme : String) (cs : List Char) : Except UrlError Host :=
  if !isSpecialScheme scheme then Host.parseOther cs
  else if cs.isEmpty then .error .emptyHost
  else Host.parseSpecial cs

/-- Reads what follows the two slashes. -/
def parseAuthority (scheme : String) (cs : List Char) : Except UrlError Url := do
  let special := isSpecialScheme scheme
  let (info, afterInfo) := splitUserInfo special cs
  if info == some [] && afterInfo.head?.any (endsAuthority special) then throw .emptyHost
  let user := parseUserInfo (info.getD [])
  let length := hostLength special false afterInfo
  let host ← parseHost scheme (afterInfo.take length)
  let afterHost := afterInfo.drop length
  if host.text.isEmpty && afterHost.head? == some ':' then throw .emptyHost
  let (port, afterPort) ← match afterHost with
    | ':' :: rest => parsePort scheme rest
    | _ => pure (none, afterHost)
  if host.text.isEmpty && !(user.username.isEmpty && user.password.isEmpty) then throw .emptyHost
  let (query, fragment) := parseTail special (afterPort.dropWhile (!endsPath ·))
  return ⟨scheme, String.ofList user.username, String.ofList user.password, some host, port,
    parsePath scheme afterPort, query, fragment⟩

/-! Files. -/

/-- A drive letter in the place of the host begins the path. -/
def splitFileHost (cs : List Char) : List Char × List Char :=
  let name := cs.takeWhile (!endsAuthority true ·)
  if isDriveLetter name then ([], cs) else (name, cs.drop name.length)

def dropLocal : Host → Host
  | .domain "localhost" => .other ""
  | h => h

/-- Empty names before the first other one are dropped from a file's path. -/
def trimFileNames : List String → List String
  | "" :: next :: rest => trimFileNames (next :: rest)
  | names => names

def fileUrl (host : Host) (cs : List Char) : Url :=
  let (query, fragment) := parseTail true (cs.dropWhile (!endsPath ·))
  let names := trimFileNames (parseSegments "file" [] (dropSlash true cs))
  ⟨"file", "", "", some host, none, .segments names, query, fragment⟩

def parseFile (cs : List Char) : Except UrlError Url :=
  match cs with
  | a :: b :: rest =>
    if isSlash true a && isSlash true b then do
      let (name, path) := splitFileHost rest
      let host ← if name.isEmpty then pure (.other "") else Host.parseSpecial name
      return fileUrl (dropLocal host) path
    else .ok (fileUrl (.other "") cs)
  | _ => .ok (fileUrl (.other "") cs)

/-! Whole URLs. -/

def parseOther (scheme : String) (cs : List Char) : Except UrlError Url :=
  let (query, fragment) := parseTail false (cs.dropWhile (!endsPath ·))
  match cs with
  | '/' :: '/' :: rest => parseAuthority scheme rest
  | '/' :: rest =>
    .ok ⟨scheme, "", "", none, none, .segments (parseSegments scheme [] rest), query, fragment⟩
  | _ =>
    let path := String.ofList (Percent.encode Percent.inControl (cs.takeWhile (!endsPath ·)))
    .ok ⟨scheme, "", "", none, none, .plain path, query, fragment⟩

def parseAfterScheme (scheme : String) (cs : List Char) : Except UrlError Url :=
  if scheme == "file" then parseFile cs
  else if isSpecialScheme scheme then parseAuthority scheme (cs.dropWhile (isSlash true))
  else parseOther scheme cs

def parse (s : String) : Except UrlError Url :=
  match splitScheme? (clean s) with
  | some (scheme, rest) => parseAfterScheme scheme rest
  | none => .error .relativeWithoutBase

end Prelaunch.Url
