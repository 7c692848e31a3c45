import Prelaunch.Toml.Scalar

/-!
The values of a TOML document, and tables as they are put together from its lines. A table may be
defined once: by a header, by dotted keys, or, until one of these comes, by the headers of tables
below it.
-/

namespace Prelaunch.Toml

inductive Value where
  | scalar (s : Scalar)
  | text (s : String)
  | array (items : List Value)
  | table (entries : List (String × Value))

/-- How a table has come to be. -/
inductive Origin where
  | defined
  | implied
  | dotted
  deriving DecidableEq, Repr

inductive Node where
  | value (v : Value)
  | table (origin : Origin) (entries : List (String × Node))
  | tables (items : List (List (String × Node)))

structure Building where
  origin : Origin
  entries : List (String × Node)

def replaceEntry (key : String) (n : Node) (entries : List (String × Node)) :
    List (String × Node) :=
  entries.map fun e => if e.1 == key then (key, n) else e

/-- Changes the table that a path leads to, making those on the way that are missing. A path of
dotted keys does not lead into a table that has its own definition. -/
def Building.change (isDotted : Bool) (f : Building → Option Building) :
    List String → Building → Option Building
  | [], t => f t
  | key :: rest, t =>
    match t.entries.lookup key with
    | none => do
      let inner ← change isDotted f rest ⟨if isDotted then .dotted else .implied, []⟩
      return { t with entries := t.entries ++ [(key, .table inner.origin inner.entries)] }
    | some (.value _) => none
    | some (.tables items) => do
      let inner ← change isDotted f rest ⟨.defined, items.getLast?.getD []⟩
      return { t with
        entries := replaceEntry key (.tables (items.dropLast ++ [inner.entries])) t.entries }
    | some (.table origin entries) => do
      guard (!(isDotted && origin == .defined))
      let inner ← change isDotted f rest ⟨origin, entries⟩
      return { t with entries := replaceEntry key (.table inner.origin inner.entries) t.entries }

/-- Adds a value under a key, the last of a path of dotted keys. -/
def Building.add (t : Building) (path : List String) (key : String) (v : Value) :
    Option Building :=
  t.change true (fun inner =>
    if (inner.origin == .dotted) == path.isEmpty || (inner.entries.lookup key).isSome then none
    else some { inner with entries := inner.entries ++ [(key, .value v)] }) path

/-- A key with the path before it, and its value. -/
structure Assignment where
  path : List String
  key : String
  value : Value

def Building.addAll (t : Building) (as : List Assignment) : Option Building :=
  as.foldlM (fun t a => t.add a.path a.key a.value) t

inductive Header where
  | root
  | table (path : List String) (key : String)
  | item (path : List String) (key : String)

/-- The lines from one header to the next. -/
structure Section where
  header : Header
  assignments : List Assignment

def Building.addSection (t : Building) (s : Section) : Option Building :=
  match s.header with
  | .root => t.addAll s.assignments
  | .table path key =>
    t.change false (fun outer =>
      let define (entries : List (String × Node)) : Option Node :=
        ((⟨.defined, entries⟩ : Building).addAll s.assignments).map fun b =>
          .table .defined b.entries
      match outer.entries.lookup key with
      | none => (define []).map fun n => { outer with entries := outer.entries ++ [(key, n)] }
      | some (.table .implied entries) =>
        (define entries).map fun n => { outer with entries := replaceEntry key n outer.entries }
      | _ => none) path
  | .item path key =>
    t.change false (fun outer => do
      let b ← (⟨.defined, []⟩ : Building).addAll s.assignments
      match outer.entries.lookup key with
      | none => return { outer with entries := outer.entries ++ [(key, .tables [b.entries])] }
      | some (.tables items) =>
        return { outer with
          entries := replaceEntry key (.tables (items ++ [b.entries])) outer.entries }
      | _ => none) path

mutual

/-- The value of what has been put together. -/
def Node.freeze : Node → Value
  | .value v => v
  | .table _ entries => .table (freezeEntries entries)
  | .tables items => .array (freezeTables items)

def freezeEntries : List (String × Node) → List (String × Value)
  | [] => []
  | (key, n) :: rest => (key, n.freeze) :: freezeEntries rest

def freezeTables : List (List (String × Node)) → List Value
  | [] => []
  | entries :: rest => .table (freezeEntries entries) :: freezeTables rest

end

def tableOf (as : List Assignment) : Option Value :=
  ((⟨.defined, []⟩ : Building).addAll as).map fun b => .table (freezeEntries b.entries)

def ofSections (ss : List Section) : Option (List (String × Value)) :=
  (ss.foldlM Building.addSection ⟨.defined, []⟩).map fun b => freezeEntries b.entries

end Prelaunch.Toml
