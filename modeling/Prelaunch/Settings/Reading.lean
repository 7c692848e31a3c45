import Prelaunch.Arrangement
import Prelaunch.Number.Shortest
import Prelaunch.Settings.Value
import Prelaunch.Text.Lowercase
import Prelaunch.Text.Quoted

/-!
Reading single settings out of a tree: a text from anything that is printed as one, a count from
anything that can be counted as one. Each reading says what it found instead, and where. The fields
of a group are read in the order in which they come, so the first that cannot be read is reported.
-/

namespace Prelaunch

namespace Settings

/-- What stands where something else is expected. -/
inductive Found where
  | scalar (s : Scalar)
  | table
  | array
  deriving DecidableEq, Repr

def Found.ofTree : Tree → Found
  | .scalar _ s => .scalar s
  | .table _ => .table
  | .array .. => .array

/-- What is found, as named where a section is expected. -/
def Found.asSection : Found → String
  | .scalar .nothing => "unit value"
  | .scalar (.boolean b) => "boolean \x60" ++ (if b then "true" else "false") ++ "\x60"
  | .scalar (.integer n) => "integer \x60" ++ toString n ++ "\x60"
  | .scalar (.double x) => "floating point \x60" ++ x.pointedText ++ "\x60"
  | .scalar (.text s) => "string " ++ Text.quoted s
  | .table => "map"
  | .array => "sequence"

/-- What is found, as named where a single value is expected. -/
def Found.asValue : Found → String
  | .scalar (.integer n) => "64-bit integer \x60" ++ toString n ++ "\x60"
  | f => f.asSection

inductive Expected where
  | count
  | unsigned
  | text
  deriving DecidableEq, Repr

def Expected.label : Expected → String
  | .count => "an integer"
  | .unsigned => "an unsigned 64 bit or less integer"
  | .text => "a string"

end Settings

inductive LoadError where
  | unreadableFile (name complaint : String)
  | notSection (found : Settings.Found) (typeName key : String)
  | wrongType (found : Settings.Found) (expected : Settings.Expected) (key : String)
      (origin : Option Settings.Origin)
  deriving DecidableEq, Repr

namespace LoadError

open Settings

def originText : Option Origin → String
  | none => ""
  | some .environment => " in the environment"
  | some (.file name) => " in " ++ name

def cause : LoadError → String
  | .unreadableFile name complaint => complaint ++ originText (some (.file name))
  | .notSection found typeName key =>
    "invalid type: " ++ found.asSection ++ ", expected struct " ++ typeName ++ " for key \x60" ++
      key ++ "\x60"
  | .wrongType found expected key origin =>
    "invalid type: " ++ found.asValue ++ ", expected " ++ expected.label ++ " for key \x60" ++ key ++
      "\x60" ++ originText origin

def message (e : LoadError) : String := "Failed to load configuration: " ++ e.cause

end LoadError

namespace Settings

def Tree.origin? : Tree → Option Origin
  | .scalar origin _ => origin
  | .table _ => none
  | .array origin _ => origin

/-- A setting with the path under which it is known. -/
structure Named where
  key : String
  tree : Tree

namespace Named

def fail {α : Type} (n : Named) (expected : Expected) : Except LoadError α :=
  .error (.wrongType (.ofTree n.tree) expected n.key n.tree.origin?)

def text (n : Named) : Except LoadError String :=
  match n.tree with
  | .scalar _ (.text s) => .ok s
  | .scalar _ (.boolean b) => .ok (if b then "true" else "false")
  | .scalar _ (.integer i) => .ok (toString i)
  | .scalar _ (.double x) => .ok x.text
  | _ => n.fail .text

def wordCount? (s : String) : Option Nat :=
  let word := Text.lowercase s
  if word == "true" || word == "on" || word == "yes" then some 1
  else if word == "false" || word == "off" || word == "no" then some 0
  else Integer.unsigned64OfText? s

def count (n : Named) : Except LoadError Nat :=
  match n.tree with
  | .scalar _ (.boolean b) => .ok (if b then 1 else 0)
  | .scalar _ (.integer i) => if 0 ≤ i then .ok i.toNat else n.fail .unsigned
  | .scalar _ (.double x) => .ok (x.toNatWithin Integer.maxUnsigned64)
  | .scalar _ (.text s) => match wordCount? s with
    | some i => .ok i
    | none => n.fail .count
  | _ => n.fail .count

def optionalCount (n : Named) : Except LoadError (Option Nat) :=
  match n.tree with
  | .scalar _ .nothing => .ok none
  | _ => n.count.map some

end Named

/-- A field of a group: its name, and how what is found for it is read into the group. -/
structure Slot (σ : Type) where
  name : String
  read : σ → Named → Except LoadError σ

/-- A field with a value of its own in the group. -/
def Slot.of {σ α : Type} (name : String) (decode : Named → Except LoadError α)
    (put : σ → α → σ) : Slot σ :=
  ⟨name, fun s n => (decode n).map (put s)⟩

namespace Group

variable {σ : Type}

def keyOf (name field : String) : String := name ++ "." ++ field

def placeOf (name : String) (place : Nat) : String := name ++ "[" ++ Nat.repr place ++ "]"

/-- The fields that a table has entries for, in the order in which these come. Other entries are
passed over. -/
def inTable (o : HashOrder) (table : HashTable) (keyOf : String → String) (fields : List (Slot σ))
    (entries : List (String × Tree)) : List (Slot σ × Named) :=
  arranged (o.rank table ·.1.name) <|
    fields.filterMap fun f => (entries.lookup f.name).map fun t => (f, ⟨keyOf f.name, t⟩)

/-- The fields that the items of a list are for, one after the other. -/
def inList (name : String) (fields : List (Slot σ)) (items : List Tree) :
    List (Slot σ × Named) :=
  (fields.zip items.zipIdx).map fun (f, t, place) => (f, ⟨placeOf name place, t⟩)

/-- What a tree gives for the fields of a group. -/
def given (o : HashOrder) (name typeName : String) (fields : List (Slot σ)) :
    Tree → Except LoadError (List (Slot σ × Named))
  | .scalar _ s => .error (.notSection (.scalar s) typeName name)
  | .table entries => .ok (inTable o (.group name) (keyOf name) fields entries)
  | .array _ items => .ok (inList name fields items)

def readInto (start : σ) (found : List (Slot σ × Named)) : Except LoadError σ :=
  found.foldlM (fun s (f, n) => f.read s n) start

/-- Reads a group, in which a field that is not given keeps its default. -/
def read (o : HashOrder) (name typeName : String) (fields : List (Slot σ)) (default : σ)
    (t : Tree) : Except LoadError σ := do
  readInto default (← given o name typeName fields t)

end Group

end Settings

end Prelaunch
