import Prelaunch.FileTree
import Prelaunch.Json.Basic
import Prelaunch.Settings.Reading
import Prelaunch.Toml.Parser

/-!
Settings files. The extension of a file tells its format. Where a path names a directory, a file
beside it with the name of the directory and one of the extensions is read instead; a file of
no known format is passed over. The formats other than TOML and JSON are read by code that is not
given here, and so are the words for what is wrong with a text.
-/

namespace Prelaunch.Settings.File

/-- A format with the extensions of its files, the usual one first. What is wrong with a text is said
in words. -/
structure Format where
  name : String
  extensions : List Bytes
  read : Origin → String → Except String Source

/-! Names within paths. -/

def dot : UInt8 := 0x2E

/-- A path backwards, without the separators and dots at its end. -/
def backwards : Bytes → Bytes
  | 0x2F :: rest => backwards rest
  | 0x2E :: 0x2F :: rest => backwards rest
  | bs => bs

/-- What leads to the last name of a path, and that name. -/
def splitName? (p : Path) : Option (Bytes × Bytes) :=
  let back := backwards p.bytes.reverse
  let name := (back.takeWhile (· != Path.separator)).reverse
  if name.isEmpty || name == Path.parentName then none
  else some ((back.dropWhile (· != Path.separator)).reverse, name)

/-- A name without its extension, and the extension; a dot at the start begins none. -/
def splitExtension (name : Bytes) : Bytes × Option Bytes :=
  let extension := (name.reverse.takeWhile (· != dot)).reverse
  let stem := name.take (name.length - extension.length - 1)
  if stem.isEmpty || extension.length == name.length then (name, none) else (stem, some extension)

def extension? (p : Path) : Option Bytes :=
  (splitName? p).bind fun (_, name) => (splitExtension name).2

def withExtension (p : Path) (extension : Bytes) : Path :=
  match splitName? p with
  | none => p
  | some (before, name) => ⟨before ++ (splitExtension name).1 ++ dot :: extension⟩

/-- The paths of the files that may stand in for a path that is no file. -/
def standIns (formats : List Format) (p : Path) : List (Path × Format) :=
  let base : Path := if (extension? p).isSome then ⟨p.bytes ++ Utf8.encode ".dummy"⟩ else p
  formats.flatMap fun f => f.extensions.map fun e => (withExtension base e, f)

/-! Files on a machine. -/

def ofLocation (l : Location) : Path := ⟨l.flatMap (Path.separator :: ·)⟩

def isFile (t : FileTree) (p : Path) : Bool := (t.read? [] p).isSome

def formatOf? (formats : List Format) (p : Path) : Option Format :=
  (extension? p).bind fun e => formats.find? (·.extensions.contains e)

/-- The file to read, if there is one. -/
def find? (formats : List Format) (t : FileTree) (cwd : Location) (p : Path) :
    Option (Path × Format) :=
  let full := (ofLocation cwd).append p
  if isFile t full then (formatOf? formats full).map (full, ·)
  else (standIns formats full).find? fun (q, _) => isFile t q

/-- The steps from a location to a path. -/
def stepsFrom : Location → List Bytes → List Bytes
  | [], steps => steps
  | base, [] => base.map fun _ => Path.parentName
  | b :: base, s :: steps =>
    if b == s then stepsFrom base steps
    else (b :: base).map (fun _ => Path.parentName) ++ s :: steps

/-- The name of a file as seen from a location. -/
def shownName (cwd : Location) (p : Path) : String :=
  Utf8.lossy (List.intercalate [Path.separator] (stepsFrom cwd p.steps))

/-! Content. -/

def textOf (content : Bytes) : String := Utf8.lossy (Utf8.withoutMark content)

def ofTomlScalar : Toml.Scalar → Scalar
  | .boolean b => .boolean b
  | .integer n => .integer n
  | .double x => .double x
  | .moment s => .text s

mutual

def ofToml (origin : Origin) : Toml.Value → Tree
  | .scalar s => .scalar (some origin) (ofTomlScalar s)
  | .text s => .scalar (some origin) (.text s)
  | .array items => .array (some origin) (ofTomlItems origin items)
  | .table entries => .table (ofTomlEntries origin entries)

def ofTomlItems (origin : Origin) : List Toml.Value → List Tree
  | [] => []
  | v :: rest => ofToml origin v :: ofTomlItems origin rest

def ofTomlEntries (origin : Origin) : List (String × Toml.Value) → List (String × Tree)
  | [] => []
  | (key, v) :: rest => (key, ofToml origin v) :: ofTomlEntries origin rest

end

mutual

def ofJson? (origin : Origin) : Json → Option Tree
  | .null => some (.scalar (some origin) .nothing)
  | .boolean b => some (.scalar (some origin) (.boolean b))
  | .number n => n.value?.map fun
    | .integer i => .scalar (some origin) (.integer i)
    | .double x => .scalar (some origin) (.double x)
  | .text raw => (Json.text? raw).map fun s => .scalar (some origin) (.text s)
  | .array items => (ofJsonItems? origin items).map (.array (some origin))
  | .object members => (ofJsonMembers? origin [] members).map .table

def ofJsonItems? (origin : Origin) : List Json → Option (List Tree)
  | [] => some []
  | v :: rest => do return (← ofJson? origin v) :: (← ofJsonItems? origin rest)

def ofJsonMembers? (origin : Origin) (entries : List (String × Tree)) :
    List (Bytes × Json) → Option (List (String × Tree))
  | [] => some entries
  | (raw, v) :: rest => do
    ofJsonMembers? origin (setEntry entries (← Json.text? raw, ← ofJson? origin v)) rest

end

/-- A document whose arrays and objects lie deeper within each other is refused. -/
def maxJsonDepth : Nat := 127

def jsonSource? (origin : Origin) (s : String) : Option Source := do
  let document ← Json.parse? (Utf8.encode s)
  guard (document.depth ≤ maxJsonDepth)
  match document with
  | .object members => ofJsonMembers? origin [] members
  | _ => none

/-! Formats. -/

/-- What is read by other code: the formats without a reader here, and the words for what is wrong
with a text of the others. -/
structure Readers where
  tomlComplaint : String → String
  jsonComplaint : String → String
  yaml : Origin → String → Except String Source
  ini : Origin → String → Except String Source
  ron : Origin → String → Except String Source
  json5 : Origin → String → Except String Source

namespace Readers

/-- No other format is read, and nothing is said of what is wrong. -/
def none : Readers :=
  let unread (_ : Origin) (_ : String) : Except String Source := .error "unknown format"
  ⟨fun _ => "not TOML", fun _ => "not JSON", unread, unread, unread, unread⟩

variable (r : Readers)

def readToml (origin : Origin) (s : String) : Except String Source :=
  match Toml.parse? s with
  | some entries => .ok (ofTomlEntries origin entries)
  | .none => .error (r.tomlComplaint s)

def readJson (origin : Origin) (s : String) : Except String Source :=
  match jsonSource? origin s with
  | some source => .ok source
  | .none => .error (r.jsonComplaint s)

def formats : List Format :=
  [⟨"toml", [Utf8.encode "toml"], r.readToml⟩, ⟨"json", [Utf8.encode "json"], r.readJson⟩,
    ⟨"yaml", [Utf8.encode "yaml", Utf8.encode "yml"], r.yaml⟩, ⟨"ini", [Utf8.encode "ini"], r.ini⟩,
    ⟨"ron", [Utf8.encode "ron"], r.ron⟩, ⟨"json5", [Utf8.encode "json5"], r.json5⟩]

/-- The formats in the order in which they are tried. -/
def tried (o : HashOrder) : List Format := arranged (o.rank .formats ·.name) r.formats

end Readers

/-- The settings of the file that a path stands for. No file has no settings. -/
def load (o : HashOrder) (r : Readers) (t : FileTree) (cwd : Location) (p : Path) :
    Except LoadError Source :=
  match find? (r.tried o) t cwd p with
  | none => .ok []
  | some (file, format) =>
    let name := shownName cwd file
    (format.read (.file name) (textOf ((t.read? [] file).getD []))).mapError (.unreadableFile name)

end Prelaunch.Settings.File
