/-!
Binary floating-point numbers of 64 bits, as the exact values that they stand for.
-/

namespace Prelaunch

/-- A finite number is `mantissa * 2 ^ exponent`, with a mantissa below `2 ^ 53`. -/
inductive Double where
  | nan
  | infinite (negative : Bool)
  | finite (negative : Bool) (mantissa : Nat) (exponent : Int)
  deriving DecidableEq, Repr

namespace Double

def twoTo (k : Nat) : Nat := Nat.pow 2 k

def tenTo (k : Nat) : Nat := Nat.pow 10 k

def mantissaBits : Nat := 53

def leastExponent : Int := -1074

def greatestExponent : Int := 971

def zero (negative : Bool) : Double := .finite negative 0 0

/-- The nearest integer to a quotient, of two equally near ones the even one. -/
def roundDiv (n d : Nat) : Nat :=
  let (q, r) := (n / d, n % d)
  if d < 2 * r || (2 * r == d && q % 2 == 1) then q + 1 else q

/-- Numerator and denominator of `n / d` in units of `2 ^ e`. -/
def inUnits (n d : Nat) (e : Int) : Nat × Nat := (n * twoTo (-e).toNat, d * twoTo e.toNat)

def quotient (x : Nat × Nat) : Nat := x.1 / x.2

/-- The exponent of the number nearest to `n / d`. -/
def exponentFor (n d : Nat) : Int :=
  let e := (Nat.log2 n : Int) - Nat.log2 d - (mantissaBits - 1)
  let fits := twoTo (mantissaBits - 1) ≤ quotient (inUnits n d e)
  max leastExponent (if fits then e else e - 1)

/-- The number nearest to `n / d`, of two equally near ones the one with an even mantissa. -/
def round (negative : Bool) (n d : Nat) : Double :=
  if n == 0 then zero negative
  else
    let e := exponentFor n d
    let (n, d) := inUnits n d e
    let q := roundDiv n d
    let (q, e) := if q < twoTo mantissaBits then (q, e) else (q / 2, e + 1)
    if greatestExponent < e then .infinite negative
    else if q == 0 then zero negative
    else .finite negative q e

/-- Beyond this power of ten every number is infinite or zero. -/
def powerLimit : Nat := 400

/-- The number nearest to `digits * 10 ^ power`. -/
def ofDecimal (negative : Bool) (digits : Nat) (power : Int) : Double :=
  let size : Int := (Nat.toDigits 10 digits).length + power
  if digits == 0 || size < -powerLimit then zero negative
  else if powerLimit < size then .infinite negative
  else round negative (digits * tenTo power.toNat) (tenTo (-power).toNat)

def isNegative : Double → Bool
  | .nan => false
  | .infinite negative => negative
  | .finite negative .. => negative

def negate : Double → Double
  | .nan => .nan
  | .infinite negative => .infinite !negative
  | .finite negative m e => .finite (!negative) m e

/-- The nearest integer without its sign; a half goes away from zero. -/
def roundAway (mantissa : Nat) (exponent : Int) : Nat :=
  let (n, d) := (mantissa * twoTo exponent.toNat, twoTo (-exponent).toNat)
  (2 * n + d) / (2 * d)

/-- The nearest number that is none less than zero nor more than `limit`. -/
def toNatWithin (limit : Nat) : Double → Nat
  | .nan => 0
  | .infinite negative => if negative then 0 else limit
  | .finite negative m e => if negative then 0 else min limit (roundAway m e)

end Double

end Prelaunch
