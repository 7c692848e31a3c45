import Prelaunch.Arrangement
import Prelaunch.OrderedMap
import Prelaunch.Path

/-!
Trees of directories and files without links. Every entry is kept under its location, the names that
lead to it from the root; the root itself is always a directory.
-/

namespace Prelaunch

abbrev Location := List Bytes

instance : Std.IsLinearOrder Location := inferInstance

instance : Std.LawfulOrderLT Location := inferInstance

inductive FileEntry where
  | directory
  | file (content : Bytes) (isExecutable : Bool)
  deriving DecidableEq, Repr

inductive FileError where
  | notFound
  | permissionDenied
  | alreadyExists
  | notDirectory
  | isDirectory
  | nameTooLong
  | nulInName
  deriving DecidableEq, Repr

def FileError.message : FileError → String
  | .notFound => "No such file or directory (os error 2)"
  | .permissionDenied => "Permission denied (os error 13)"
  | .alreadyExists => "File exists (os error 17)"
  | .notDirectory => "Not a directory (os error 20)"
  | .isDirectory => "Is a directory (os error 21)"
  | .nameTooLong => "File name too long (os error 36)"
  | .nulInName => "file name contained an unexpected NUL byte"

structure FileTree where
  entries : OrderedMap Location FileEntry
  deriving DecidableEq

namespace FileTree

def empty : FileTree := ⟨.empty⟩

instance : Inhabited FileTree := ⟨empty⟩

def entry? (t : FileTree) (loc : Location) : Option FileEntry :=
  if loc.isEmpty then some .directory else t.entries.find? loc

def put (t : FileTree) (loc : Location) (e : FileEntry) : FileTree := ⟨t.entries.insert loc e⟩

def maxNameLength : Nat := 255

def maxPathLength : Nat := 4095

/-- One step down, up, or nowhere. -/
def step (here : Location) (name : Bytes) : Except FileError Location :=
  if name == Path.currentName then .ok here
  else if name == Path.parentName then .ok here.dropLast
  else if maxNameLength < name.length then .error .nameTooLong
  else .ok (here ++ [name])

/-- The location that names lead to. Steps are taken from directories only, so the last name alone
may lead to something that does not exist. -/
def walk (t : FileTree) : Location → List Bytes → Except FileError Location
  | here, [] => .ok here
  | here, name :: rest => match t.entry? here with
    | none => .error .notFound
    | some (.file ..) => .error .notDirectory
    | some .directory => step here name >>= fun next => walk t next rest

def start (cwd : Location) (p : Path) : Location := if p.isAbsolute then [] else cwd

def checkPath (p : Path) : Except FileError Unit :=
  if p.bytes.contains 0 then .error .nulInName
  else if p.isEmpty then .error .notFound
  else if maxPathLength < p.bytes.length then .error .nameTooLong
  else .ok ()

/-- A separator at the end asks for a directory. -/
def locate (t : FileTree) (cwd : Location) (p : Path) : Except FileError Location := do
  checkPath p
  t.walk (start cwd p) (p.names ++ if p.endsInSeparator then [Path.currentName] else [])

/-- What the path names. -/
def find (t : FileTree) (cwd : Location) (p : Path) : Except FileError (Location × FileEntry) := do
  let loc ← t.locate cwd p
  match t.entry? loc with
  | some e => return (loc, e)
  | none => throw .notFound

def doesExist (t : FileTree) (cwd : Location) (p : Path) : Bool := (t.find cwd p).isOk

def read? (t : FileTree) (cwd : Location) (p : Path) : Option Bytes :=
  match t.find cwd p with
  | .ok (_, .file content _) => some content
  | _ => none

/-- Replaces the content of a file, or makes a new one. A file that can be opened takes the whole
content: disks that fail or are full are left out. -/
def write (t : FileTree) (cwd : Location) (p : Path) (content : Bytes) :
    Except FileError FileTree := do
  checkPath p
  let loc ← t.walk (start cwd p) p.names
  match t.entry? loc with
  | some .directory => throw .isDirectory
  | some (.file _ isExecutable) =>
    if p.endsInSeparator then throw .notDirectory
    return t.put loc (.file content isExecutable)
  | none =>
    if p.endsInSeparator then throw .isDirectory
    return t.put loc (.file content false)

def makeDirectory (t : FileTree) (here : Location) (names : List Bytes) :
    Except FileError FileTree := do
  let loc ← t.walk here names
  match t.entry? loc with
  | some _ => throw .alreadyExists
  | none => return t.put loc .directory

def isDirectoryAt (t : FileTree) (here : Location) (names : List Bytes) : Bool :=
  match t.walk here names with
  | .ok loc => t.entry? loc == some .directory
  | .error _ => false

/-- Makes the directory that names lead to. Where it is missing a parent, the parents are made first
in their own way; what has been made stays if a later step fails. -/
def makeWith (t : FileTree) (here : Location) (names : List Bytes)
    (parents : FileTree × Except FileError Unit) : FileTree × Except FileError Unit :=
  let settle (t : FileTree) (e : FileError) : FileTree × Except FileError Unit :=
    (t, if e == .alreadyExists && t.isDirectoryAt here names then .ok () else .error e)
  match t.makeDirectory here names with
  | .ok made => (made, .ok ())
  | .error .notFound => match parents with
    | (t, .error e) => (t, .error e)
    | (t, .ok ()) => match t.makeDirectory here names with
      | .ok made => (made, .ok ())
      | .error e => settle t e
  | .error e => settle t e

/-- Makes the directory that names (the last one first) lead to, and its parents. -/
def makeDirectories (t : FileTree) (here : Location) : List Bytes → FileTree × Except FileError Unit
  | [] => (t, .ok ())
  | last :: before =>
    t.makeWith here (last :: before).reverse (t.makeDirectories here before)

/-- Makes sure that a directory and all its parents exist. A dot at the end of the path is no name of
its own for the parents, but what it stands behind has to be there. -/
def ensureDirectory (t : FileTree) (cwd : Location) (p : Path) :
    FileTree × Except FileError Unit :=
  match checkPath p with
  | .error .notFound => (t, .ok ())
  | .error e => (t, .error e)
  | .ok () =>
    t.makeWith (start cwd p) p.names (t.makeDirectories (start cwd p) p.steps.dropLast.reverse)

/-- How a file system shows a directory: the names by their ranks, and a size for each directory. -/
structure Listing where
  rank : Location → Bytes → Nat
  directorySize : Location → Nat

def Listing.plain : Listing := ⟨fun _ _ => 0, fun _ => 4096⟩

/-- The names and sizes of the entries of a directory. -/
def list (t : FileTree) (shown : Listing) (cwd : Location) (p : Path) :
    Except FileError (List (Bytes × Nat)) := do
  match ← t.find cwd p with
  | (_, .file ..) => throw .notDirectory
  | (loc, .directory) =>
    return arranged (shown.rank loc ·.1) <| t.entries.entries.filterMap fun (place, e) =>
      if place.dropLast == loc then
        place.getLast?.map (·, match e with
          | .directory => shown.directorySize place
          | .file content _ => content.length)
      else none

end FileTree

end Prelaunch
