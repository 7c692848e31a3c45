import Prelaunch.Url.Parser

/-!
References: texts that name a URL by what differs from another.
-/

namespace Prelaunch.Url

def names (u : Url) : List String :=
  match u.path with
  | .segments ns => ns
  | .plain _ => []

/-- The URL that a reference without a scheme names, seen from a URL with one of the schemes of the
web. -/
def resolveRelative (base : Url) (cs : List Char) : Except UrlError Url :=
  let (query, fragment) := parseTail true (cs.dropWhile (!endsPath ·))
  match cs with
  | [] => .ok base.withoutFragment
  | '#' :: _ => .ok { base with fragment }
  | '?' :: _ => .ok { base with query, fragment }
  | c :: rest =>
    if isSlash true c then
      if rest.head?.any (isSlash true) then
        parseAuthority base.scheme (rest.dropWhile (isSlash true))
      else .ok { base with path := .segments (parseSegments base.scheme [] rest), query, fragment }
    else
      let path := .segments (parseSegments base.scheme base.names.dropLast cs)
      .ok { base with path, query, fragment }

def resolve (base : Url) (reference : String) : Except UrlError Url :=
  let cs := clean reference
  match splitScheme? cs with
  | none => resolveRelative base cs
  | some (scheme, rest) =>
    if scheme == base.scheme && (rest.takeWhile (isSlash true)).length < 2 then
      resolveRelative base rest
    else parseAfterScheme scheme rest

end Prelaunch.Url
