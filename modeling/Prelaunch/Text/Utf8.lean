/-!
Bytes and the text they spell in UTF-8. Any run of bytes splits into characters and ill-formed
pieces, a piece being the longest beginning of some character. Strict reading refuses a run with a
piece in it, lossy reading puts U+FFFD for each.
-/

namespace Prelaunch

abbrev Bytes := List UInt8

instance : Std.IsLinearOrder Bytes := inferInstance

instance : Std.LawfulOrderLT Bytes := inferInstance

namespace Utf8

/-- A character begun but not complete: how many bytes it still needs, the range of the next of
them, and the bits read so far. -/
structure Open where
  missing : Nat
  low : UInt8
  high : UInt8
  bits : Nat

inductive Lead where
  | whole (c : Char)
  | opens (o : Open)
  | stray

def lead (b : UInt8) : Lead :=
  if b < 0x80 then .whole (Char.ofNat b.toNat)
  else if b < 0xC2 then .stray
  else if b < 0xE0 then .opens ⟨1, 0x80, 0xBF, b.toNat - 0xC0⟩
  else if b < 0xF0 then
    .opens ⟨2, if b = 0xE0 then 0xA0 else 0x80, if b = 0xED then 0x9F else 0xBF, b.toNat - 0xE0⟩
  else if b < 0xF5 then
    .opens ⟨3, if b = 0xF0 then 0x90 else 0x80, if b = 0xF4 then 0x8F else 0xBF, b.toNat - 0xF0⟩
  else .stray

mutual

/-- The characters of a run in order, `none` standing for an ill-formed piece. -/
def pieces : Bytes → List (Option Char)
  | [] => []
  | b :: rest => match lead b with
    | .whole c => some c :: pieces rest
    | .opens o => continuing o rest
    | .stray => none :: pieces rest

def continuing (o : Open) : Bytes → List (Option Char)
  | [] => [none]
  | b :: rest =>
    if o.low ≤ b && b ≤ o.high then
      let bits := o.bits * 64 + (b.toNat - 0x80)
      if o.missing ≤ 1 then some (Char.ofNat bits) :: pieces rest
      else continuing ⟨o.missing - 1, 0x80, 0xBF, bits⟩ rest
    else match lead b with
      | .whole c => none :: some c :: pieces rest
      | .opens o' => none :: continuing o' rest
      | .stray => none :: none :: pieces rest

end

def encode (s : String) : Bytes := s.toList.flatMap String.utf8EncodeChar

def decode? (bs : Bytes) : Option String := ((pieces bs).mapM id).map String.ofList

def lossy (bs : Bytes) : String := String.ofList ((pieces bs).map (·.getD '\uFFFD'))

/-- U+FEFF as the first character of a file, which says no more than that the file holds text. -/
def byteOrderMark : Bytes := [0xEF, 0xBB, 0xBF]

def withoutMark (bs : Bytes) : Bytes := (byteOrderMark.isPrefixOf? bs).getD bs

end Utf8

end Prelaunch
