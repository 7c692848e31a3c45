import Prelaunch.OrderedMap
import Prelaunch.Text.Affix
import Prelaunch.Text.Utf8

/-!
A snapshot of the environment variables of a process. Names are texts; each value is kept as bytes,
and once more as text if it is one.
-/

namespace Prelaunch

structure Environment where
  texts : OrderedMap String String
  raws : OrderedMap String Bytes
  deriving DecidableEq

namespace Environment

def empty : Environment := ⟨.empty, .empty⟩

instance : Inhabited Environment := ⟨empty⟩

/-- Takes a pair in. A later value of a name replaces the bytes of an earlier one, but its text only
by a text. -/
def assign (env : Environment) (pair : Bytes × Bytes) : Environment :=
  match Utf8.decode? pair.1 with
  | none => env
  | some name => {
      texts := match Utf8.decode? pair.2 with
        | some text => env.texts.insert name text
        | none => env.texts
      raws := env.raws.insert name pair.2 }

def ofPairs (pairs : List (Bytes × Bytes)) : Environment := pairs.foldl assign empty

def get? (env : Environment) (name : String) : Option String := env.texts.find? name

def getRaw? (env : Environment) (name : String) : Option Bytes := env.raws.find? name

def nonEmpty? (env : Environment) (name : String) : Option String :=
  (env.get? name).filter (!·.isEmpty)

def firstNonEmpty? (env : Environment) (names : List String) : Option String :=
  names.findSome? env.nonEmpty?

/-- The texts in the order of their names. -/
def toList (env : Environment) : List (String × String) := env.texts.entries

/-- The texts whose names begin with `start`. In the order of names they stand together, and no name
before `start` itself is one of them. -/
def startingWith (env : Environment) (start : String) : List (String × String) :=
  (env.toList.dropWhile (·.1 < start)).takeWhile (Text.startsWith start ·.1)

def isEmpty (env : Environment) : Bool := env.texts.isEmpty

end Environment

end Prelaunch
