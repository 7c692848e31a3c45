import Prelaunch.Cli

/-!
The command line. The files at which a run looks are read before it, and what it has changed is
written after it. No connection is opened and no process is replaced from here: every host is out of
reach, and the words of the hand-over are written out for `xargs -0 env -i`.
-/

namespace Prelaunch.CommandLine

/-- The paths at which a run looks, as far as the files known so far tell. -/
def watched (m : Machine) (inherited : Variables) (t : FileTree) : List Path :=
  let above := (List.range (m.workingDir.length + 1)).map fun n =>
    Settings.File.ofLocation (m.workingDir.take n ++ [EnvFile.fileName])
  let vars := (EnvFile.load? t m.workingDir inherited).getD inherited
  let env := Environment.ofPairs vars.entries
  let file := Config.pathFrom env
  let settings := file :: (Settings.File.standIns m.readers.formats file).map (·.1)
  let rest := match ((Config.load m env).run { files := t }).1 with
    | .error _ => []
    | .ok c =>
      let program := Path.ofText c.bootstrap.entrypoint
      let dirs := ((vars.find? (Utf8.encode "PATH")).getD Launch.defaultSearchPath).splitOn
        Launch.listSeparator
      [c.bootstrap.configDir, program] ++ dirs.map fun dir => Path.append ⟨dir⟩ program
  above ++ settings ++ rest

/-- The words of a hand-over: first the environment, then the program and its arguments. -/
def words (i : Invocation) : List Bytes :=
  i.environment.entries.map (fun (name, value) => name ++ 0x3D :: value) ++
    Utf8.encode i.program :: i.args

/-- The parts of a text after each of which there is a NUL. -/
def parts (content : ByteArray) : List Bytes := (content.toList.splitOn 0).dropLast

def assignment (part : Bytes) : Bytes × Bytes :=
  (part.takeWhile (· != 0x3D), (part.dropWhile (· != 0x3D)).drop 1)

/-- The entries of a tree that are not in another as they are. -/
def changes (before after : FileTree) : List (Location × FileEntry) :=
  after.entries.entries.filter fun (loc, e) => before.entry? loc != some e

/-! Input and output. -/

/-- Adds what there is at a path. Every file counts as a program. -/
def addFound (cwd : Location) (t : FileTree) (p : Path) : IO FileTree := do
  let found := (← IO.currentDir) / p.display
  let names := p.steps.reverse
  if ← found.isDir then
    return (t.makeDirectories (FileTree.start cwd p) names).1
  else if ← found.pathExists then
    let t := (t.makeDirectories (FileTree.start cwd p) (names.drop 1)).1
    let content ← IO.FS.readBinFile found
    match t.locate cwd p with
    | .ok loc => return t.put loc (.file content.toList true)
    | .error _ => return t
  else return t

/-- Each round may show new paths: those of settings, and those that settings name. -/
def readFiles (m : Machine) (inherited : Variables) : Nat → FileTree → IO FileTree
  | 0, t => return t
  | rounds + 1, t => do
    readFiles m inherited rounds (← (watched m inherited t).foldlM (addFound m.workingDir) t)

def writeChange : Location × FileEntry → IO Unit
  | (loc, .directory) => IO.FS.createDirAll (Settings.File.ofLocation loc).display
  | (loc, .file content _) =>
    IO.FS.writeBinFile (Settings.File.ofLocation loc).display ⟨content.toArray⟩

def writeWords (i : Invocation) : IO Unit := do
  (← IO.getStdout).write ⟨((words i).flatMap (· ++ [0])).toArray⟩

def run : IO UInt32 := do
  let inherited := ((parts (← IO.FS.readBinFile "/proc/self/environ")).map assignment).foldl
    (fun vars (name, value) => vars.insert name value) (.empty : Variables)
  let args := (parts (← IO.FS.readBinFile "/proc/self/cmdline")).drop 1
  let cwd := (Path.ofText (← IO.currentDir).toString).names
  let m : Machine := { network := .unreachable, workingDir := cwd }
  let (start, _) := FileTree.empty.makeDirectories [] cwd.reverse
  let before ← readFiles m inherited 3 start
  let (outcome, progress) := Cli.run m args inherited { files := before }
  (changes before progress.files).forM writeChange
  outcome.invocation?.forM writeWords
  outcome.report?.forM fun report => IO.eprintln report
  return (outcome.exitCode fun _ => 0).toUInt32

end Prelaunch.CommandLine

def main : IO UInt32 := Prelaunch.CommandLine.run
