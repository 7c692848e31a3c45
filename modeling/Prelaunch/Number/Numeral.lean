import Prelaunch.Number.Double

/-!
Numbers as they are written in digits, with a decimal point and a power of ten.
-/

namespace Prelaunch

structure Numeral where
  negative : Bool
  whole : List Char
  fraction : List Char
  power : Int
  deriving DecidableEq, Repr

namespace Numeral

def digitsValue (cs : List Char) : Nat := cs.foldl (fun n c => n * 10 + (c.toNat - 0x30)) 0

def toDouble (n : Numeral) : Double :=
  .ofDecimal n.negative (digitsValue (n.whole ++ n.fraction)) (n.power - n.fraction.length)

/-- A sign and what follows it. -/
def splitSign : List Char → Bool × List Char
  | '-' :: rest => (true, rest)
  | '+' :: rest => (false, rest)
  | cs => (false, cs)

/-- A power of ten, at the end of a number. -/
def power? : List Char → Option Int
  | [] => some 0
  | e :: rest =>
    let (negative, digits) := splitSign rest
    if (e == 'e' || e == 'E') && !digits.isEmpty && digits.all Char.isDigit then
      some (if negative then -(digitsValue digits : Int) else digitsValue digits)
    else none

/-- Digits may be missing before the point or after it, but not on both sides. -/
def ofChars? (cs : List Char) : Option Numeral :=
  let (negative, cs) := splitSign cs
  let whole := cs.takeWhile Char.isDigit
  let rest := cs.dropWhile Char.isDigit
  let (fraction, rest) := match rest with
    | '.' :: more => (more.takeWhile Char.isDigit, more.dropWhile Char.isDigit)
    | _ => ([], rest)
  if whole.isEmpty && fraction.isEmpty then none
  else (power? rest).map fun power => ⟨negative, whole, fraction, power⟩

end Numeral

/-- A number, or one of the words for infinity and for what is no number, in any letter case. -/
def Double.ofText? (s : String) : Option Double :=
  let (negative, cs) := Numeral.splitSign s.toList
  let word := String.ofList (cs.map Char.toLower)
  if word == "inf" || word == "infinity" then some (.infinite negative)
  else if word == "nan" then some .nan
  else (Numeral.ofChars? s.toList).map Numeral.toDouble

namespace Integer

/-- An integer in decimal digits. -/
def ofText? (s : String) : Option Int :=
  let (negative, digits) := Numeral.splitSign s.toList
  if digits.isEmpty || !digits.all Char.isDigit then none
  else
    let n := Numeral.digitsValue digits
    some (if negative then -(n : Int) else n)

/-- The integers of 64 bits, with a sign. -/
def isSigned64 (n : Int) : Bool := -0x8000000000000000 ≤ n && n ≤ 0x7FFFFFFFFFFFFFFF

def maxUnsigned64 : Nat := 0xFFFFFFFFFFFFFFFF

def signed64OfText? (s : String) : Option Int := (ofText? s).filter isSigned64

/-- A number of 64 bits without a sign, though a plus may stand before it. -/
def unsigned64OfText? (s : String) : Option Nat :=
  if s.toList.head? == some '-' then none
  else ((ofText? s).map Int.toNat).filter (· ≤ maxUnsigned64)

end Integer

end Prelaunch
