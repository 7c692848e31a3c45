import Prelaunch.Text.Utf8

/-!
Bytes as letters that each stand for six bits, filled up to groups of four.
-/

namespace Prelaunch.Http.Base64

def letter (n : Nat) : UInt8 :=
  if n < 26 then (0x41 + n).toUInt8
  else if n < 52 then (0x61 + (n - 26)).toUInt8
  else if n < 62 then (0x30 + (n - 52)).toUInt8
  else if n == 62 then 0x2B
  else 0x2F

def padding : UInt8 := 0x3D

def encode : Bytes → Bytes
  | [] => []
  | [a] =>
    let n := a.toNat * 16
    [letter (n / 64), letter (n % 64), padding, padding]
  | [a, b] =>
    let n := (a.toNat * 256 + b.toNat) * 4
    [letter (n / 4096), letter (n / 64 % 64), letter (n % 64), padding]
  | a :: b :: c :: rest =>
    let n := (a.toNat * 256 + b.toNat) * 256 + c.toNat
    letter (n / 262144) :: letter (n / 4096 % 64) :: letter (n / 64 % 64) :: letter (n % 64) ::
      encode rest

end Prelaunch.Http.Base64
