import Prelaunch.Text.Affix
import Prelaunch.Text.Utf8

/-!
Paths as they are written: bytes in which `/` separates names.
-/

namespace Prelaunch

structure Path where
  bytes : Bytes
  deriving DecidableEq, Repr

namespace Path

def separator : UInt8 := 0x2F

def ofText (s : String) : Path := ⟨Utf8.encode s⟩

/-- The path as shown to people. -/
def display (p : Path) : String := Utf8.lossy p.bytes

def isEmpty (p : Path) : Bool := p.bytes.isEmpty

def isAbsolute (p : Path) : Bool := p.bytes.head? == some separator

def endsInSeparator (p : Path) : Bool := p.bytes.getLast? == some separator

/-- The path `q` as seen from `p`. -/
def append (p q : Path) : Path :=
  if q.isAbsolute || p.isEmpty then q
  else if p.endsInSeparator then ⟨p.bytes ++ q.bytes⟩
  else ⟨p.bytes ++ separator :: q.bytes⟩

def join (p : Path) (name : String) : Path := p.append (ofText name)

def currentName : Bytes := [0x2E]

def parentName : Bytes := [0x2E, 0x2E]

/-- The names between the separators; empty ones do not count. -/
def names (p : Path) : List Bytes := (p.bytes.splitOn separator).filter (!·.isEmpty)

/-- The names that lead anywhere. A dot at the very start of a path is kept. -/
def steps (p : Path) : List Bytes :=
  match p.names with
  | [] => []
  | first :: rest =>
    (if first == currentName && p.isAbsolute then [] else [first]) ++
      rest.filter (· != currentName)

end Path

end Prelaunch
