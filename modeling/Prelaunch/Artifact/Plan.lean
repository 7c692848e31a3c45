import Prelaunch.Artifact
import Prelaunch.Environment
import Prelaunch.Path

/-!
The downloads that an environment asks for: the primary configuration, then one configuration for
each variable `CONFIG_URL_…` and one handler for each `HANDLER_URL_…`, in the order of the names.
-/

namespace Prelaunch

structure ArtifactRequest where
  url : String
  path : Path
  kind : ArtifactKind
  source : String
  deriving DecidableEq, Repr

namespace Plan

def configStart : String := "CONFIG_URL_"

def handlerStart : String := "HANDLER_URL_"

def primaryVariable : String := "LITELLM_CONFIG_URL"

/-- A variable that may ask for a download. -/
structure Candidate where
  kind : ArtifactKind
  start : String
  source : String
  url : String

namespace Candidate

/-- An empty URL asks for nothing. -/
def isVacant (c : Candidate) : Bool := c.url.isEmpty

def fileName (c : Candidate) : Except UnusableName String :=
  Artifact.fileName c.source c.start c.kind

def isUsable (c : Candidate) : Bool := c.fileName.isOk

def request (dir : Path) (c : Candidate) : Except UnusableName ArtifactRequest :=
  c.fileName.map fun name => ⟨c.url, dir.join name, c.kind, c.source⟩

end Candidate

def candidatesFor (env : Environment) (start : String) (kind : ArtifactKind) : List Candidate :=
  (env.startingWith start).map fun (source, url) => ⟨kind, start, source, url⟩

def candidates (env : Environment) : List Candidate :=
  candidatesFor env configStart .config ++ candidatesFor env handlerStart .handler

def primaryRequest (dir : Path) (url : String) : ArtifactRequest :=
  ⟨url, dir.join Artifact.primaryFileName, .primaryConfig, primaryVariable⟩

/-- The variables passed over for an empty URL before the plan is complete or fails. -/
def vacant (env : Environment) : List String :=
  ((candidates env).takeWhile fun c => c.isVacant || c.isUsable).filter (·.isVacant)
    |>.map (·.source)

end Plan

/-- Two requests for one file both stay: the later download overwrites the earlier. -/
def plan (env : Environment) (dir : Path) (primary : Option String) :
    Except UnusableName (List ArtifactRequest) := do
  let requests ← ((Plan.candidates env).filter (!·.isVacant)).mapM (·.request dir)
  return (primary.map (Plan.primaryRequest dir)).toList ++ requests

end Prelaunch
