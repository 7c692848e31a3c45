import Prelaunch.Text.Hex
import Prelaunch.Text.Utf8

/-!
Percent-encoding: a byte as `%` and two hexadecimal digits, and for each part of a URL the
characters that are written so.
-/

namespace Prelaunch.Url.Percent

def hexDigit (n : Nat) : Char := Char.ofNat (if n < 10 then 0x30 + n else 0x37 + n)

def encodeByte (b : UInt8) : List Char := ['%', hexDigit (b.toNat / 16), hexDigit (b.toNat % 16)]

def encode (escapes : Char → Bool) (cs : List Char) : List Char :=
  cs.flatMap fun c => if escapes c then (String.utf8EncodeChar c).flatMap encodeByte else [c]

/-- A `%` without two digits after it stands for itself. -/
def decode : Bytes → Bytes
  | [] => []
  | 0x25 :: a :: b :: rest => match Text.hexValue? a, Text.hexValue? b with
    | some h, some l => (h * 16 + l).toUInt8 :: decode rest
    | _, _ => 0x25 :: decode (a :: b :: rest)
  | b :: rest => b :: decode rest

/-- Control characters and everything beyond ASCII. -/
def inControl (c : Char) : Bool := c.toNat < 0x20 || 0x7E < c.toNat

def inFragment (c : Char) : Bool :=
  inControl c || c == ' ' || c == '"' || c == '<' || c == '>' || c == '\x60'

def inQuery (c : Char) : Bool :=
  inControl c || c == ' ' || c == '"' || c == '#' || c == '<' || c == '>'

def inSpecialQuery (c : Char) : Bool := inQuery c || c == '\''

def inPath (c : Char) : Bool :=
  inFragment c || c == '#' || c == '?' || c == '\x7b' || c == '\x7d'

def inUserInfo (c : Char) : Bool :=
  inPath c || c == '/' || c == ':' || c == ';' || c == '=' || c == '@' || c == '[' || c == '\\' ||
    c == ']' || c == '^' || c == '|'

end Prelaunch.Url.Percent
