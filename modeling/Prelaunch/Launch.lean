import Prelaunch.Config
import Prelaunch.Environment
import Prelaunch.FileTree

/-!
The hand-over to the program that takes this one's place. The program finds the working directory
first on its search path for modules, before whatever was there.
-/

namespace Prelaunch

/-- Why a program cannot take over. -/
inductive ExecError where
  | nulByte
  | file (cause : FileError)
  deriving DecidableEq, Repr

def ExecError.message : ExecError → String
  | .nulByte => "nul byte found in provided data"
  | .file cause => cause.message

inductive LaunchError where
  | modulePath (name : String) (dir : Path)
  | exec (program : String) (cause : ExecError)
  deriving DecidableEq, Repr

def LaunchError.message : LaunchError → String
  | .modulePath name dir =>
    "cannot add " ++ dir.display ++ " to " ++ name ++
      ": path segment contains separator \x60:\x60"
  | .exec program cause => "failed to execute " ++ program ++ ": " ++ cause.message

structure Launch where
  program : String
  args : List Bytes
  modulePathVar : String
  modulePath : Bytes
  deriving DecidableEq, Repr

namespace Launch

/-- Separates the entries of a search path. -/
def listSeparator : UInt8 := 0x3A

/-- The search path that has these entries. None of them can have a separator in it. -/
def joined? (entries : List Bytes) : Option Bytes :=
  if entries.any (·.contains listSeparator) then none
  else some ([listSeparator].intercalate entries)

/-- The directory and then the entries of an older search path, if it has any. -/
def prepended? (dir : Bytes) (older : Option Bytes) : Option Bytes :=
  joined? (dir :: (older.filter (!·.isEmpty)).elim [] (·.splitOn listSeparator))

def make (s : BootstrapSettings) (args : List Bytes) (env : Environment) :
    Except LaunchError Launch :=
  match prepended? s.configDir.bytes (env.getRaw? s.modulePathVar) with
  | none => .error (.modulePath s.modulePathVar s.configDir)
  | some modulePath => .ok ⟨s.entrypoint, args, s.modulePathVar, modulePath⟩

end Launch

/-- A hand-over as it is shown. -/
structure Command where
  program : Bytes
  args : List Bytes
  environment : List (String × Bytes)
  deriving DecidableEq, Repr

namespace Launch

/-- Stands for bytes that no program can be given. -/
def shown (bs : Bytes) : Bytes :=
  if bs.contains 0 then Utf8.encode "<string-with-nul>" else bs

def command (l : Launch) : Command :=
  ⟨shown (Utf8.encode l.program), l.args.map shown, [(l.modulePathVar, l.modulePath)]⟩

end Launch

/-- A program that runs in place of this one. -/
structure Invocation where
  program : String
  args : List Bytes
  environment : OrderedMap Bytes Bytes
  deriving DecidableEq

namespace Launch

def hasNul (l : Launch) : Bool :=
  (Utf8.encode l.program).contains 0 || l.args.any (·.contains 0) ||
    (Utf8.encode l.modulePathVar).contains 0 || l.modulePath.contains 0

/-- The environment of the program. -/
def environment (l : Launch) (inherited : OrderedMap Bytes Bytes) : OrderedMap Bytes Bytes :=
  inherited.insert (Utf8.encode l.modulePathVar) l.modulePath

def checkExecutable (t : FileTree) (cwd : Location) (p : Path) : Except FileError Unit :=
  match t.find cwd p with
  | .error e => .error e
  | .ok (_, .file _ true) => .ok ()
  | .ok _ => .error .permissionDenied

/-- Where programs are looked for if the environment does not tell. -/
def defaultSearchPath : Bytes := Utf8.encode "/bin:/usr/bin"

/-- Tries the directories in turn. A program that may not be run counts more than one that is not
there. -/
def tryDirectories (t : FileTree) (cwd : Location) (name : Path) :
    FileError → List Bytes → Except FileError Unit
  | e, [] => .error e
  | e, dir :: rest => match checkExecutable t cwd (Path.append ⟨dir⟩ name) with
    | .ok () => .ok ()
    | .error .permissionDenied => match tryDirectories t cwd name .permissionDenied rest with
      | .ok () => .ok ()
      | .error _ => .error .permissionDenied
    | .error .nameTooLong => .error .nameTooLong
    | .error e' => tryDirectories t cwd name (if e == .permissionDenied then e else e') rest

/-- Finds a program: by its path, or by its name on the search path for programs. -/
def findProgram (t : FileTree) (cwd : Location) (environment : OrderedMap Bytes Bytes)
    (program : String) : Except FileError Unit :=
  let name := Path.ofText program
  if name.isEmpty then .error .notFound
  else if name.bytes.contains Path.separator then checkExecutable t cwd name
  else if FileTree.maxNameLength < name.bytes.length then .error .nameTooLong
  else
    let path := (environment.find? (Utf8.encode "PATH")).getD defaultSearchPath
    tryDirectories t cwd name .notFound (path.splitOn listSeparator)

/-- The program that takes over, with its arguments and environment. -/
def exec (l : Launch) (t : FileTree) (cwd : Location) (inherited : OrderedMap Bytes Bytes) :
    Except LaunchError Invocation :=
  let environment := l.environment inherited
  if l.hasNul then .error (.exec l.program .nulByte)
  else match findProgram t cwd environment l.program with
    | .error e => .error (.exec l.program (.file e))
    | .ok () => .ok ⟨l.program, l.args, environment⟩

end Launch

end Prelaunch
