import Prelaunch.Url.Idna.Composed
import Prelaunch.Url.Idna.Direction
import Prelaunch.Url.Idna.Expanded
import Prelaunch.Url.Idna.Joining
import Prelaunch.Url.Idna.Kept
import Prelaunch.Url.Idna.Replaced
import Prelaunch.Url.Punycode

/-!
Domain names of any script in the letters of ASCII. A name is mapped character by character, its
marks are ordered and composed with their letters, and each label that still holds a letter of
another script is spelled with an `xn--` before it. A label that comes so spelled has to be one that
mapping leaves alone.
-/

namespace Prelaunch.Url.Idna

def mapChar (c : Char) : Option (List Char) :=
  if isKept c then some [c]
  else if isLeftOut c then some []
  else match replacement? c with
    | some r => some [r]
    | none => expansion? c

def mapText (cs : List Char) : Option (List Char) := (cs.mapM mapChar).map List.flatten

/-! Syllables of Hangul, composed by arithmetic. -/

def syllableBase : Nat := 0xAC00
def leadBase : Nat := 0x1100
def vowelBase : Nat := 0x1161
def tailBase : Nat := 0x11A7

def syllableParts? (c : Char) : Option (List Char) :=
  let n := c.toNat - syllableBase
  if c.toNat < syllableBase || 11172 ≤ n then none
  else
    let tail := if n % 28 == 0 then [] else [Char.ofNat (tailBase + n % 28)]
    some (Char.ofNat (leadBase + n / 588) :: Char.ofNat (vowelBase + n % 588 / 28) :: tail)

def syllable? (a b : Char) : Option Char :=
  let (x, y) := (a.toNat, b.toNat)
  if leadBase ≤ x && x < leadBase + 19 && vowelBase ≤ y && y < vowelBase + 21 then
    some (Char.ofNat (syllableBase + ((x - leadBase) * 21 + (y - vowelBase)) * 28))
  else if syllableBase ≤ x && x < syllableBase + 11172 && (x - syllableBase) % 28 == 0 &&
      tailBase < y && y < tailBase + 28 then
    some (Char.ofNat (x + (y - tailBase)))
  else none

/-! Canonical composition of a mapped text. Every character that stands for a single other one is
gone by then. -/

/-- Takes a character apart, `depth` times at the most; four are always enough. -/
def takeApart : Nat → Char → List Char
  | 0, c => [c]
  | depth + 1, c => match syllableParts? c with
    | some cs => cs
    | none => match parts? c with
      | some (a, b) => takeApart depth a ++ takeApart depth b
      | none => [c]

/-- Moves a mark behind the marks of lower classes. -/
def sink (c : Char) : List Char → List Char
  | [] => [c]
  | d :: rest =>
    if 0 < markClass d && markClass d < markClass c then d :: sink c rest else c :: d :: rest

def orderMarks (cs : List Char) : List Char := cs.foldr sink []

/-- Composes what follows with the letter `base`, from which the marks in `between` (nearest first)
separate it. -/
def composeAfter (base : Char) (between : List Char) : List Char → List Char
  | [] => base :: between.reverse
  | c :: rest =>
    let isNear := match between with
      | [] => true
      | m :: _ => markClass m < markClass c
    match if isNear then (syllable? base c).or (composed? base c) else none with
    | some d => composeAfter d between rest
    | none =>
      if markClass c == 0 then base :: between.reverse ++ composeAfter c [] rest
      else composeAfter base (c :: between) rest

def composeMarks : List Char → List Char
  | [] => []
  | c :: rest => if markClass c == 0 then composeAfter c [] rest else c :: composeMarks rest

def compose (cs : List Char) : List Char := composeMarks (orderMarks (cs.flatMap (takeApart 4)))

/-! Labels. -/

def mark : List Char := ['x', 'n', '-', '-']

structure Label where
  letters : List Char
  spelled : List Char

def isAscii (cs : List Char) : Bool := cs.all Punycode.isBasic

def readSpelled (label : List Char) : Option Label := do
  let letters ← Punycode.decode (label.drop mark.length)
  guard (!isAscii letters && letters.all isKept && compose letters == letters &&
    !mark.isPrefixOf letters)
  return ⟨letters, label⟩

def readLabel (label : List Char) : Option Label :=
  if mark.isPrefixOf label then readSpelled label
  else some ⟨label, if isAscii label then label else mark ++ Punycode.encode label⟩

def Label.isSound (l : Label) : Bool :=
  isAscii l.letters || (!l.letters.head?.any isMark && joinersBelong [] l.letters)

/-- The name in ASCII, or nothing if it is no domain name. -/
def toAscii (cs : List Char) : Option (List Char) := do
  let labels ← ((compose (← mapText cs)).splitOn '.').mapM readLabel
  guard (labels.all (·.isSound))
  guard (!labels.any (·.letters.any turns) || labels.all (hasOneDirection ·.letters))
  return List.intercalate ['.'] (labels.map (·.spelled))

end Prelaunch.Url.Idna
