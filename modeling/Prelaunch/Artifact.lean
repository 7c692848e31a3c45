import Prelaunch.Text.Affix
import Prelaunch.Text.Lowercase

/-!
The kinds of files that are downloaded and the names under which they are kept.
-/

namespace Prelaunch

inductive ArtifactKind where
  | primaryConfig
  | config
  | handler
  deriving DecidableEq, Repr

def ArtifactKind.label : ArtifactKind → String
  | .primaryConfig => "primary-config"
  | .config => "config"
  | .handler => "handler"

/-- The rest of a variable's name names no file inside a directory. -/
structure UnusableName where
  source : String
  suffix : String
  deriving DecidableEq, Repr

def UnusableName.message (e : UnusableName) : String :=
  e.source ++ ": '" ++ e.suffix ++ "' is not a usable artifact name"

namespace Artifact

def primaryFileName : String := "config.yaml"

/-- A file name made from the suffix stays in its directory. -/
def isContained (suffix : String) : Bool :=
  !suffix.isEmpty && !suffix.toList.any (fun c => c == '/' || c == '\\' || c == '\x00') &&
    !suffix.toList.all (· == '.')

def fileNameOf (kind : ArtifactKind) (suffix : String) : String :=
  match kind with
  | .primaryConfig => primaryFileName
  | .config => Text.lowercase suffix ++ ".yaml"
  | .handler => Text.lowercase suffix ++ "_handler.py"

/-- The local name for a variable: what follows `start`, or all of it if it begins otherwise. -/
def fileName (source start : String) (kind : ArtifactKind) : Except UnusableName String :=
  let suffix := (Text.dropStart? start source).getD source
  if isContained suffix then .ok (fileNameOf kind suffix) else .error ⟨source, suffix⟩

end Artifact

end Prelaunch
