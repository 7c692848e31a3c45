/-!
Numeric addresses as hosts. The older kind is written as up to four numbers of base 10, 8 or 16, the
last of which fills the bytes that are left; the newer kind as eight groups of hexadecimal digits, of
which one run of zeros may be left out and the last two may be written as the older kind.
-/

namespace Prelaunch.Url.Address

def digit? (base : Nat) (c : Char) : Option Nat :=
  let n := c.toNat
  let d :=
    if 0x30 ≤ n && n ≤ 0x39 then n - 0x30
    else if 0x41 ≤ n && n ≤ 0x46 then n - 0x37
    else if 0x61 ≤ n && n ≤ 0x66 then n - 0x57
    else base
  if d < base then some d else none

def digits? (base : Nat) (cs : List Char) : Option Nat :=
  cs.foldlM (fun n c => (digit? base c).map (n * base + ·)) 0

/-- A number whose beginning tells its base: `0x`, `0`, or neither. -/
def number? : List Char → Option Nat
  | [] => none
  | '0' :: 'x' :: rest => digits? 16 rest
  | '0' :: 'X' :: rest => digits? 16 rest
  | '0' :: c :: rest => digits? 8 (c :: rest)
  | cs => digits? 10 cs

/-- The parts between dots, less one empty part at the end. -/
def dottedParts (cs : List Char) : List (List Char) :=
  let parts := cs.splitOn '.'
  if 1 < parts.length && parts.getLast? == some [] then parts.dropLast else parts

/-- Such a name has to be an address. -/
def endsInNumber (cs : List Char) : Bool :=
  match (dottedParts cs).getLast? with
  | none => false
  | some last => (!last.isEmpty && last.all Char.isDigit) || (number? last).isSome

/-- How many values so many bytes have. -/
def byteValues (count : Nat) : Nat := Nat.pow 256 count

def ofNumbers? : List Nat → Nat → Option Nat
  | [], _ => none
  | [last], room => if last < byteValues room then some last else none
  | n :: rest, room =>
    if n < 256 then (ofNumbers? rest (room - 1)).map (n * byteValues (room - 1) + ·) else none

def short? (cs : List Char) : Option Nat := do
  let parts := dottedParts cs
  guard (parts.length ≤ 4)
  ofNumbers? (← parts.mapM number?) 4

def shortText (n : Nat) : String :=
  let byte (k : Nat) : String := Nat.repr (n / byteValues k % 256)
  byte 3 ++ "." ++ byte 2 ++ "." ++ byte 1 ++ "." ++ byte 0

def group? (cs : List Char) : Option Nat :=
  if cs.isEmpty || 4 < cs.length then none else digits? 16 cs

/-- A byte in decimal digits, with no zero before them. -/
def byte? (cs : List Char) : Option Nat :=
  if cs.isEmpty || 3 < cs.length || (1 < cs.length && cs.head? == some '0') then none
  else (digits? 10 cs).filter (· < 256)

def dotted? (cs : List Char) : Option (List Nat) := do
  match ← (cs.splitOn '.').mapM byte? with
  | [a, b, c, d] => return [a * 256 + b, c * 256 + d]
  | _ => none

/-- The groups of the end of an address. -/
def groups? : List (List Char) → Option (List Nat)
  | [] => some []
  | [last] => if last.contains '.' then dotted? last else (group? last).map ([·])
  | cs :: rest => do return (← group? cs) :: (← groups? rest)

/-- The texts before and after the first `::`. -/
def splitGap? : List Char → Option (List Char × List Char)
  | ':' :: ':' :: rest => some ([], rest)
  | c :: rest => (splitGap? rest).map fun (before, after) => (c :: before, after)
  | [] => none

def long? (cs : List Char) : Option (List Nat) := do
  match splitGap? cs with
  | none =>
    let groups ← groups? (cs.splitOn ':')
    guard (groups.length == 8)
    return groups
  | some (before, after) =>
    let front ← if before.isEmpty then some [] else (before.splitOn ':').mapM group?
    let back ← if after.isEmpty then some [] else groups? (after.splitOn ':')
    guard (front.length + back.length ≤ 7)
    return front ++ List.replicate (8 - front.length - back.length) 0 ++ back

def zerosFrom (groups : List Nat) : Nat := (groups.takeWhile (· == 0)).length

/-- The place and length of the longest run of zeros, the first of equals. -/
def longestZeros (groups : List Nat) : Nat × Nat :=
  (List.range groups.length).foldl (fun best i =>
    let n := zerosFrom (groups.drop i)
    if best.2 < n then (i, n) else best) (0, 0)

def groupsText (groups : List Nat) : String :=
  ":".intercalate (groups.map fun g => String.ofList (Nat.toDigits 16 g))

def longText (groups : List Nat) : String :=
  let (place, count) := longestZeros groups
  if count < 2 then groupsText groups
  else groupsText (groups.take place) ++ "::" ++ groupsText (groups.drop (place + count))

end Prelaunch.Url.Address
