/-!
Letters of any script spelled with the letters and digits of ASCII: the ASCII characters of the
text, then its other characters in increasing order, each as the distance from the one before in
digits of a base whose thresholds follow the distances seen so far.
-/

namespace Prelaunch.Url.Punycode

def digitChar (d : Nat) : Char := Char.ofNat (if d < 26 then 0x61 + d else 0x16 + d)

def digitValue? (c : Char) : Option Nat :=
  if 'a' ≤ c && c ≤ 'z' then some (c.toNat - 0x61)
  else if 'A' ≤ c && c ≤ 'Z' then some (c.toNat - 0x41)
  else if '0' ≤ c && c ≤ '9' then some (c.toNat - 0x16)
  else none

/-- The least digit that does not end a number, at the place `k`. -/
def threshold (bias k : Nat) : Nat := min 26 (max 1 (k - bias))

theorem threshold_pos (bias k : Nat) : 1 ≤ threshold bias k := by unfold threshold; omega

theorem threshold_le (bias k : Nat) : threshold bias k ≤ 26 := by unfold threshold; omega

def settle (delta k : Nat) : Nat :=
  if 455 < delta then settle (delta / 35) (k + 36) else k + 36 * delta / (delta + 38)
termination_by delta
decreasing_by exact Nat.div_lt_self (by omega) (by omega)

/-- The bias after a distance `delta`, with `count` characters placed. -/
def adapt (delta count : Nat) (first : Bool) : Nat :=
  let halved := if first then delta / 700 else delta / 2
  settle (halved + halved / count) 0

/-- The digits of a distance, from place `k` on. -/
def digits (bias k q : Nat) : List Char :=
  let t := threshold bias k
  if q < t then [digitChar q]
  else digitChar (t + (q - t) % (36 - t)) :: digits bias (k + 36) ((q - t) / (36 - t))
termination_by q
decreasing_by
  have h1 := threshold_pos bias k
  have h2 := threshold_le bias k
  have h3 := Nat.div_le_self (q - threshold bias k) (36 - threshold bias k)
  omega

structure Writer where
  written : List Char
  delta : Nat
  bias : Nat
  placed : Nat

def isBasic (c : Char) : Bool := c.toNat < 0x80

def Writer.pass (basic point : Nat) (w : Writer) (c : Char) : Writer :=
  if c.toNat < point then { w with delta := w.delta + 1 }
  else if c.toNat == point then
    ⟨w.written ++ digits w.bias 36 w.delta, 0, adapt w.delta (w.placed + 1) (w.placed == basic),
      w.placed + 1⟩
  else w

/-- Writes every occurrence of each of the code points, which come in increasing order. -/
def Writer.run (text : List Char) (basic : Nat) : List Nat → Nat → Writer → Writer
  | [], _, w => w
  | point :: rest, from_, w =>
    let w := { w with delta := w.delta + (point - from_) * (w.placed + 1) }
    let w := text.foldl (Writer.pass basic point) w
    run text basic rest (point + 1) { w with delta := w.delta + 1 }

def increasing (points : List Nat) : List Nat :=
  points.foldr (fun p sorted =>
    if sorted.contains p then sorted else sorted.takeWhile (· < p) ++ p :: sorted.dropWhile (· < p))
    []

def encode (text : List Char) : List Char :=
  let basic := text.filter isBasic
  let points := increasing ((text.filter (!isBasic ·)).map Char.toNat)
  let w := Writer.run text basic.length points 0x80 ⟨[], 0, 72, basic.length⟩
  (if basic.isEmpty then [] else basic ++ ['-']) ++ w.written

/-- A number being read: its value so far, and the weight and place of its next digit. -/
structure Reader where
  placed : List Char
  point : Nat
  index : Nat
  bias : Nat
  value : Nat
  weight : Nat
  place : Nat

def Reader.take (r : Reader) (c : Char) : Option Reader := do
  let d ← digitValue? c
  let value := r.value + d * r.weight
  let t := threshold r.bias r.place
  if t ≤ d then
    return { r with value, weight := r.weight * (36 - t), place := r.place + 36 }
  let count := r.placed.length + 1
  let point := r.point + (r.index + value) / count
  let index := (r.index + value) % count
  guard (point.isValidChar)
  return {
    placed := r.placed.take index ++ Char.ofNat point :: r.placed.drop index
    point
    index := index + 1
    bias := adapt value count (r.index == 0)
    value := 0
    weight := 1
    place := 36 }

/-- A dash with nothing before it does not end the ASCII characters, and is no digit either. -/
def decode (text : List Char) : Option (List Char) := do
  let tail := text.reverse.takeWhile (· != '-')
  let basic := (text.reverse.drop (tail.length + 1)).reverse
  guard (basic.all isBasic && (!basic.isEmpty || tail.length == text.length))
  let r ← tail.reverse.foldlM Reader.take ⟨basic, 0x80, 0, 72, 0, 1, 36⟩
  guard (r.place == 36)
  return r.placed

end Prelaunch.Url.Punycode
