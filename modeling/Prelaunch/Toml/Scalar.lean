import Prelaunch.Number.Numeral
import Prelaunch.Text.Reader

/-!
The words of a TOML document that stand for numbers, truth values, dates and times. A date or time
is kept as the text that is written for it: a `T` between date and time, a `Z` for no offset, and no
zeros at the end of a fraction of a second.
-/

namespace Prelaunch.Toml

inductive Scalar where
  | boolean (b : Bool)
  | integer (n : Int)
  | double (x : Double)
  | moment (text : String)
  deriving DecidableEq, Repr

namespace Scalar

open Text

/-! Digits, between which single underscores may stand. -/

def digits (p : Char → Bool) : Reader (List Char) := do
  let first ← Reader.takeWhile1 p
  let groups ← Reader.many do
    Reader.char '_'
    Reader.takeWhile1 p
  return first ++ groups.flatten

def sign : Reader Bool :=
  (do Reader.char '-'; return true) <|> (do Reader.char '+'; return false) <|> return false

/-- A zero stands alone. -/
def plainDigits : Reader (List Char) := do
  let cs ← digits Char.isDigit
  if cs.head? == some '0' && 1 < cs.length then failure else return cs

def valueIn (base : Nat) (cs : List Char) : Nat :=
  cs.foldl (fun n c =>
    let d := c.toNat
    n * base + (if d ≤ 0x39 then d - 0x30 else if d ≤ 0x46 then d - 0x37 else d - 0x57)) 0

def isHexDigit (c : Char) : Bool :=
  c.isDigit || ('a' ≤ c && c ≤ 'f') || ('A' ≤ c && c ≤ 'F')

def withBase : Reader Int :=
  (do Reader.literal "0x"; return valueIn 16 (← digits isHexDigit)) <|>
  (do Reader.literal "0o"; return valueIn 8 (← digits fun c => '0' ≤ c && c ≤ '7')) <|>
  (do Reader.literal "0b"; return valueIn 2 (← digits fun c => c == '0' || c == '1'))

def decimal : Reader Int := do
  let negative ← sign
  let n : Int := Numeral.digitsValue (← plainDigits)
  return if negative then -n else n

def integer? (cs : List Char) : Option Int :=
  (Reader.run? (withBase <|> decimal) cs).filter Integer.isSigned64

def power : Reader Int := do
  let _ ← Reader.satisfying fun c => c == 'e' || c == 'E'
  let negative ← sign
  let n : Int := Numeral.digitsValue (← digits Char.isDigit)
  return if negative then -n else n

def numeral : Reader Numeral := do
  let negative ← sign
  let whole ← plainDigits
  let fraction ← Reader.option do
    Reader.char '.'
    digits Char.isDigit
  let power ← Reader.option power
  if fraction.isNone && power.isNone then failure
  return ⟨negative, whole, fraction.getD [], power.getD 0⟩

/-- A number that is too great for any but infinity is none. -/
def double? (cs : List Char) : Option Double :=
  let (negative, word) := Numeral.splitSign cs
  if word == ['i', 'n', 'f'] then some (.infinite negative)
  else if word == ['n', 'a', 'n'] then some .nan
  else match (Reader.run? numeral cs).map Numeral.toDouble with
    | some (.infinite _) => none
    | x => x

/-! Dates and times. -/

def number (places : Nat) : Reader (List Char × Nat) := do
  let cs ← Reader.count places Char.isDigit
  return (cs, Numeral.digitsValue cs)

def isLeapYear (year : Nat) : Bool := (year % 4 == 0 && year % 100 != 0) || year % 400 == 0

def daysIn (year month : Nat) : Nat :=
  if month == 2 then (if isLeapYear year then 29 else 28)
  else if [4, 6, 9, 11].contains month then 30
  else 31

def date : Reader (List Char) := do
  let (y, year) ← number 4
  Reader.char '-'
  let (m, month) ← number 2
  Reader.char '-'
  let (d, day) ← number 2
  if month == 0 || 12 < month || day == 0 || daysIn year month < day then failure
  return y ++ ['-'] ++ m ++ ['-'] ++ d

def fraction : Reader (List Char) := do
  Reader.char '.'
  let cs ← Reader.takeWhile1 Char.isDigit
  let kept := ((cs.take 9).reverse.dropWhile (· == '0')).reverse
  return if kept.isEmpty then [] else '.' :: kept

/-- Seconds, up to one that is put in after the last minute of a day. -/
def seconds : Reader (List Char) := do
  Reader.char ':'
  let (s, second) ← number 2
  if 60 < second then failure
  return ':' :: s ++ ((← Reader.option fraction).getD [])

def time : Reader (List Char) := do
  let (h, hour) ← number 2
  Reader.char ':'
  let (m, minute) ← number 2
  if 23 < hour || 59 < minute then failure
  return h ++ [':'] ++ m ++ ((← Reader.option seconds).getD [])

def offset : Reader (List Char) :=
  (do
    let _ ← Reader.satisfying fun c => c == 'Z' || c == 'z'
    return ['Z']) <|>
  (do
    let s ← Reader.satisfying fun c => c == '+' || c == '-'
    let (h, hour) ← number 2
    Reader.char ':'
    let (m, minute) ← number 2
    if 23 < hour || 59 < minute then failure
    return (if hour == 0 && minute == 0 then '+' else s) :: h ++ [':'] ++ m)

def dateAndTime : Reader (List Char) := do
  let d ← date
  let t ← Reader.option do
    let _ ← Reader.satisfying fun c => c == 'T' || c == 't' || c == ' '
    let t ← time
    return 'T' :: t ++ ((← Reader.option offset).getD [])
  return d ++ t.getD []

def moment? (cs : List Char) : Option String :=
  (Reader.run? (dateAndTime <|> time) cs).map String.ofList

def ofChars? (cs : List Char) : Option Scalar :=
  if cs == "true".toList then some (.boolean true)
  else if cs == "false".toList then some (.boolean false)
  else
    ((integer? cs).map .integer).or <| ((double? cs).map .double).or <|
      (moment? cs).map .moment

end Scalar

end Prelaunch.Toml
