import Prelaunch.Number.Double

/-!
The shortest digits that read back as a number, and the text that shows them without a power of ten.
-/

namespace Prelaunch.Double

/-- The decimal number `digits * 10 ^ power`. -/
structure Decimal where
  digits : Nat
  power : Int

/-- What reads back as a number lies between two bounds, given in quarters of the last place of its
mantissa. Both bounds belong to it when the mantissa is even. -/
structure Span where
  low : Nat
  value : Nat
  high : Nat
  isClosed : Bool
  exponent : Int

def span (mantissa : Nat) (exponent : Int) : Span :=
  let isEdge := mantissa == twoTo (mantissaBits - 1) && leastExponent < exponent
  ⟨4 * mantissa - (if isEdge then 1 else 2), 4 * mantissa, 4 * mantissa + 2, mantissa % 2 == 0,
    exponent - 2⟩

namespace Span

/-- Multiples of `2 ^ exponent` and of `10 ^ power`, brought to one unit. -/
def ofBinary (s : Span) (power : Int) (x : Nat) : Nat :=
  x * twoTo s.exponent.toNat * tenTo (-power).toNat

def ofDecimal (s : Span) (power : Int) (x : Nat) : Nat :=
  x * tenTo power.toNat * twoTo (-s.exponent).toNat

def holds (s : Span) (power : Int) (digits : Nat) : Bool :=
  let x := s.ofDecimal power digits
  let (low, high) := (s.ofBinary power s.low, s.ofBinary power s.high)
  if s.isClosed then low ≤ x && x ≤ high else low < x && x < high

/-- Of the two neighbours on the grid of `10 ^ power` the one that reads back. If both do it is the
nearer one, and the greater of two equally near ones. -/
def onGrid? (s : Span) (power : Int) : Option Decimal :=
  let value := s.ofBinary power s.value
  let below := value / s.ofDecimal power 1
  let above := below + 1
  let toBelow := value - s.ofDecimal power below
  let toAbove := s.ofDecimal power above - value
  match s.holds power below, s.holds power above with
  | true, true => some ⟨if toBelow < toAbove then below else above, power⟩
  | true, false => some ⟨below, power⟩
  | false, true => some ⟨above, power⟩
  | false, false => none

/-- The least power of ten above the value. -/
def magnitude (s : Span) : Int :=
  let value := s.ofBinary 0 s.value
  let unit := s.ofDecimal 0 1
  if unit ≤ value then (Nat.toDigits 10 (value / unit)).length
  else
    Int.negOfNat ((List.range 400).findIdx fun k => unit ≤ value * tenTo (k + 1))

end Span

/-- Seventeen digits always read back. -/
def maxDigits : Nat := 17

def shortest (mantissa : Nat) (exponent : Int) : Decimal :=
  let s := span mantissa exponent
  ((List.range maxDigits).findSome? fun k => s.onGrid? (s.magnitude - (k + 1 : Nat))).getD ⟨0, 0⟩

/-- Digits with the point at its place; no zero ends the part behind it. -/
def positional (d : Decimal) : List Char :=
  let digits := Nat.toDigits 10 d.digits
  if 0 ≤ d.power then digits ++ List.replicate d.power.toNat '0'
  else
    let places := (-d.power).toNat
    let padded := List.replicate (places + 1 - digits.length) '0' ++ digits
    let whole := padded.take (padded.length - places)
    let fraction := ((padded.drop (padded.length - places)).reverse.dropWhile (· == '0')).reverse
    if fraction.isEmpty then whole else whole ++ '.' :: fraction

def text (x : Double) : String :=
  let sign := if x.isNegative then "-" else ""
  match x with
  | .nan => "NaN"
  | .infinite _ => sign ++ "inf"
  | .finite _ 0 _ => sign ++ "0"
  | .finite _ m e => sign ++ String.ofList (positional (shortest m e))

/-- The text of a number that shows that it is not an integer's. -/
def pointedText (x : Double) : String :=
  match x with
  | .finite .. => if x.text.toList.contains '.' then x.text else x.text ++ ".0"
  | _ => x.text

end Prelaunch.Double
