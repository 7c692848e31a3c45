import Prelaunch.Text.Hex
import Prelaunch.Text.Utf8

/-!
The texts of a JSON document: what stands between two quotes, and the text that it spells.
-/

namespace Prelaunch.Json

def hex4? (a b c d : UInt8) : Option Nat :=
  [a, b, c, d].foldlM (fun n digit => (Text.hexValue? digit).map (n * 16 + ·)) 0

def isLeading (n : Nat) : Bool := 0xD800 ≤ n && n < 0xDC00

def isTrailing (n : Nat) : Bool := 0xDC00 ≤ n && n < 0xE000

/-- The byte that a letter after a backslash stands for. -/
def shortEscape? (b : UInt8) : Option UInt8 :=
  if b == 0x22 || b == 0x5C || b == 0x2F then some b
  else if b == 0x62 then some 0x08
  else if b == 0x66 then some 0x0C
  else if b == 0x6E then some 0x0A
  else if b == 0x72 then some 0x0D
  else if b == 0x74 then some 0x09
  else none

/-- Whether every escape has the form of one. -/
def hasSoundEscapes : Bytes → Bool
  | [] => true
  | 0x5C :: 0x75 :: a :: b :: c :: d :: rest => (hex4? a b c d).isSome && hasSoundEscapes rest
  | 0x5C :: e :: rest => (shortEscape? e).isSome && hasSoundEscapes rest
  | [0x5C] => false
  | _ :: rest => hasSoundEscapes rest

/-- The bytes that a text spells. A code point beyond the first 65536 is spelled by two escapes,
neither of which may stand alone. -/
def unescape? : Bytes → Option Bytes
  | [] => some []
  | 0x5C :: 0x75 :: a :: b :: c :: d :: 0x5C :: 0x75 :: a' :: b' :: c' :: d' :: rest => do
    let n ← hex4? a b c d
    if isLeading n then
      let n' ← hex4? a' b' c' d'
      guard (isTrailing n')
      return String.utf8EncodeChar (Char.ofNat (0x10000 + (n - 0xD800) * 0x400 + (n' - 0xDC00))) ++
        (← unescape? rest)
    guard (!isTrailing n)
    return String.utf8EncodeChar (Char.ofNat n) ++
      (← unescape? (0x5C :: 0x75 :: a' :: b' :: c' :: d' :: rest))
  | 0x5C :: 0x75 :: a :: b :: c :: d :: rest => do
    let n ← hex4? a b c d
    guard (!isLeading n && !isTrailing n)
    return String.utf8EncodeChar (Char.ofNat n) ++ (← unescape? rest)
  | 0x5C :: e :: rest => do return (← shortEscape? e) :: (← unescape? rest)
  | [0x5C] => none
  | b :: rest => do return b :: (← unescape? rest)

def text? (raw : Bytes) : Option String := (unescape? raw).bind Utf8.decode?

end Prelaunch.Json
