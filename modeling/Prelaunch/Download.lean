import Prelaunch.Action

/-!
The download of one URL into one file, which it replaces. There is no second try and no half result:
a file is written only when its whole content has come.
-/

namespace Prelaunch

inductive FetchError where
  | request (url : String) (cause : Http.Failure)
  | timeout (url : String)
  | tooManyRedirects (url : String)
  | status (url : String) (code : Nat)
  | write (url : String) (path : Path) (cause : FileError)
  deriving DecidableEq, Repr

namespace FetchError

def message : FetchError → String
  | .request url cause => "request to " ++ url ++ " failed: " ++ cause.message
  | .timeout url => "request to " ++ url ++ " timed out"
  | .tooManyRedirects url => "too many redirects fetching " ++ url
  | .status url code => url ++ " returned HTTP " ++ Nat.repr code
  | .write url path cause =>
    "failed to write " ++ url ++ " to " ++ path.display ++ ": " ++ cause.message

/-- The URL whose download failed. -/
def url : FetchError → String
  | .request url _ => url
  | .timeout url => url
  | .tooManyRedirects url => url
  | .status url _ => url
  | .write url _ _ => url

def ofFailure (url : String) (cause : Http.Failure) : FetchError :=
  if cause.isTimeout then .timeout url
  else match cause with
    | .tooManyRedirects _ => .tooManyRedirects url
    | cause => .request url cause

end FetchError

namespace Download

def content (m : Machine) (client : Http.Client) (url : String) (header : Option Header) :
    Action FetchError Bytes := do
  Action.tell .debug "Starting download" [("url", url)]
  let response ← (Action.request m client url header.toList).within (.ofFailure url)
  if !response.isSuccess then throw (.status url response.status)
  Action.orFail (.ofFailure url) response.read

/-- The number of bytes written. -/
def fetch (m : Machine) (client : Http.Client) (url : String) (path : Path)
    (header : Option Header) : Action FetchError Nat := do
  let bytes ← content m client url header
  let files ← Action.orFail (.write url path) ((← Action.files).write m.workingDir path bytes)
  Action.setFiles files
  Action.tell .debug "Download completed"
    [("url", url), ("path", path.display), ("size", Nat.repr bytes.length)]
  return bytes.length

end Download

end Prelaunch
