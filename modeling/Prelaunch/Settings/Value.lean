import Prelaunch.Number.Numeral
import Prelaunch.Settings.KeyPath

/-!
Settings as trees, and how a later tree is laid over an earlier one: tables are joined key by key,
and any other value takes the place of what was there.
-/

namespace Prelaunch

namespace Settings

inductive Scalar where
  | nothing
  | boolean (b : Bool)
  | integer (n : Int)
  | double (x : Double)
  | text (s : String)
  deriving DecidableEq, Repr

inductive Origin where
  | environment
  | file (name : String)
  deriving DecidableEq, Repr

/-- What is joined from several sources has no origin of its own. -/
inductive Tree where
  | scalar (origin : Option Origin) (s : Scalar)
  | table (entries : List (String × Tree))
  | array (origin : Option Origin) (items : List Tree)

namespace Tree

def nothing : Tree := .scalar none .nothing

def lookup? (t : Tree) (key : String) : Option Tree :=
  match t with
  | .table entries => entries.lookup key
  | _ => none

/-- Changes the entry of a key, which is nothing if it is missing. -/
def changeEntry (f : Tree → Tree) (key : String) : List (String × Tree) → List (String × Tree)
  | [] => [(key, f nothing)]
  | e :: rest => if e.1 == key then (key, f e.2) :: rest else e :: changeEntry f key rest

def entriesOf : Tree → List (String × Tree)
  | .table entries => entries
  | _ => []

def changeKey (f : Tree → Tree) (key : String) (t : Tree) : Tree :=
  .table (changeEntry f key t.entriesOf)

def changeItem (f : Tree → Tree) (place : Nat) (items : List Tree) : List Tree :=
  items.take place ++ f (items[place]?.getD nothing) :: items.drop (place + 1)

/-- Changes the item at a place. Missing items up to a place are filled in behind the last one; a
place too far before the last one makes room in front of the first. -/
def changeIndex (f : Tree → Tree) (place : Int) (t : Tree) : Tree :=
  let (origin, items) := match t with
    | .array origin items => (origin, items)
    | _ => (none, [])
  let fromEnd := place + items.length
  .array origin <|
    if 0 ≤ place then
      changeItem f place.toNat (items ++ List.replicate (place.toNat - items.length) nothing)
    else if 0 ≤ fromEnd then changeItem f fromEnd.toNat items
    else changeItem f 0 (List.replicate (-fromEnd).toNat nothing ++ items)

def changeStep (f : Tree → Tree) : Step → Tree → Tree
  | .key name => changeKey f name
  | .index place => changeIndex f place

def changeAt (f : Tree → Tree) (p : KeyPath) : Tree → Tree :=
  changeKey (p.more.foldr (fun s g => changeStep g s) f) p.first

mutual

/-- Lays the first tree over the second. -/
def laidOver : Tree → Tree → Tree
  | .table entries, below => laidOverEntries entries (.table below.entriesOf)
  | t, _ => t

def laidOverEntries : List (String × Tree) → Tree → Tree
  | [], below => below
  | (key, t) :: rest, below => laidOverEntries rest (changeKey t.laidOver key below)

end

end Tree

/-- The entries of a source, whose keys are paths. -/
abbrev Source := List (String × Tree)

/-- Of several entries with one key the last counts. -/
def setEntry (entries : Source) (e : String × Tree) : Source :=
  entries.filter (·.1 != e.1) ++ [e]

def addEntry (root : Tree) (e : String × Tree) : Tree :=
  Tree.changeAt e.2.laidOver (KeyPath.parse e.1) root

/-- All sources in one tree, the later over the earlier. -/
def join (sources : List Source) : Tree := sources.flatten.foldl addEntry (.table [])

end Settings

end Prelaunch
