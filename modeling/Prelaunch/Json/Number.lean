import Prelaunch.Number.Numeral
import Prelaunch.Text.Utf8

/-!
The numbers of a JSON document as they are written, and the values that they are read as: an integer
where one of 64 bits is written out, and otherwise the digits that fit into 64 bits, scaled by a
power of ten.
-/

namespace Prelaunch

namespace Json

structure Number where
  negative : Bool
  whole : List Char
  fraction : Option (List Char)
  power : Option Int
  deriving DecidableEq, Repr

namespace Number

def power? : List Char → Option (Option Int)
  | [] => some none
  | cs => (Numeral.power? cs).map some

/-- The digits after a point, of which there is at least one, and what follows them. -/
def fraction? : List Char → Option (Option (List Char) × List Char)
  | '.' :: rest =>
    let digits := rest.takeWhile Char.isDigit
    if digits.isEmpty then none else some (some digits, rest.dropWhile Char.isDigit)
  | cs => some (none, cs)

/-- What stands behind the sign. A zero stands alone before the point. -/
def magnitude? (negative : Bool) (cs : List Char) : Option Number := do
  let whole := cs.takeWhile Char.isDigit
  guard (!whole.isEmpty && (whole.head? != some '0' || whole.length == 1))
  let (fraction, rest) ← fraction? (cs.dropWhile Char.isDigit)
  return ⟨negative, whole, fraction, ← power? rest⟩

def ofChars? : List Char → Option Number
  | '-' :: rest => magnitude? true rest
  | cs => magnitude? false cs

def ofBytes? (word : Bytes) : Option Number :=
  ofChars? (word.map fun b => Char.ofNat b.toNat)

inductive Value where
  | integer (n : Int)
  | double (x : Double)
  deriving DecidableEq, Repr

/-- Takes digits in while they fit into 64 bits. -/
def gather (n : Nat) : List Char → Nat × List Char
  | [] => (n, [])
  | c :: rest =>
    let next := n * 10 + (c.toNat - 0x30)
    if next ≤ Integer.maxUnsigned64 then gather next rest else (n, c :: rest)

/-- The greatest power of ten that is a number. -/
def greatestPower : Nat := 308

def parts : Double → Nat × Int
  | .finite _ m e => (m, e)
  | _ => (0, 0)

def times (x y : Double) : Double :=
  let ((m, e), (m', e')) := (parts x, parts y)
  .round false (m * m' * Double.twoTo (e + e').toNat) (Double.twoTo (-(e + e')).toNat)

def quotient (x y : Double) : Double :=
  let ((m, e), (m', e')) := (parts x, parts y)
  .round false (m * Double.twoTo (e - e').toNat) (m' * Double.twoTo (e' - e).toNat)

def powerOfTen (k : Nat) : Double := .ofDecimal false 1 k

/-- Divides in steps, each of which is rounded. -/
def lower : Nat → Double → Nat → Double
  | 0, x, _ => x
  | steps + 1, x, k =>
    if k ≤ greatestPower then quotient x (powerOfTen k)
    else lower steps (quotient x (powerOfTen greatestPower)) (k - greatestPower)

/-- Two steps leave nothing of a number of 64 bits. -/
def maxSteps : Nat := 3

/-- The digits as a number and then its product with the power of ten, each rounded. A product that
is too great is no value. -/
def scaled? (digits : Nat) (power : Int) : Option Double :=
  let x := Double.ofDecimal false digits 0
  if digits == 0 then some x
  else if power < 0 then some (lower maxSteps x (-power).toNat)
  else if greatestPower < power.toNat then none
  else match times x (powerOfTen power.toNat) with
    | .infinite _ => none
    | y => some y

def value? (n : Number) : Option Value :=
  let (digits, rest) := gather 0 n.whole
  let isExact := rest.isEmpty && n.fraction.isNone && n.power.isNone
  let signed : Int := if n.negative then -(digits : Int) else digits
  if isExact && Integer.isSigned64 signed && !(n.negative && digits == 0) then
    some (.integer signed)
  else
    let fraction := n.fraction.getD []
    let (digits, left) := gather digits fraction
    let power := (rest.length : Int) - (fraction.length - left.length) + n.power.getD 0
    (scaled? digits power).map fun x => .double (if n.negative then x.negate else x)

end Number

end Json

end Prelaunch
