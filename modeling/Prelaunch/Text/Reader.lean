/-!
Readers: each takes characters from the front of a text, or fails and takes none.
-/

namespace Prelaunch.Text

abbrev Reader := StateT (List Char) Option

namespace Reader

def rest : Reader (List Char) := get

/-- The next character, which is not taken. -/
def peek? : Reader (Option Char) := return (← rest).head?

def satisfying (p : Char → Bool) : Reader Char := do
  match ← rest with
  | c :: cs => if p c then set cs; return c else failure
  | [] => failure

def char (c : Char) : Reader Unit := do let _ ← satisfying (· == c)

def takeWhile (p : Char → Bool) : Reader (List Char) := do
  let cs ← rest
  set (cs.dropWhile p)
  return cs.takeWhile p

def takeWhile1 (p : Char → Bool) : Reader (List Char) := do
  let cs ← takeWhile p
  if cs.isEmpty then failure else return cs

def skipWhile (p : Char → Bool) : Reader Unit := do let _ ← takeWhile p

/-- Exactly this text. -/
def literal (s : String) : Reader Unit := do
  match s.toList.isPrefixOf? (← rest) with
  | some cs => set cs
  | none => failure

def followedBy (s : String) : Reader Bool := return s.toList.isPrefixOf (← rest)

def ending : Reader Unit := do
  if !(← rest).isEmpty then failure

def count (n : Nat) (p : Char → Bool) : Reader (List Char) := do
  let cs := (← rest).take n
  if cs.length == n && cs.all p then
    set ((← rest).drop n)
    return cs
  else failure

variable {α : Type}

/-- As often as it succeeds, at most `limit` times. -/
def repeated (r : Reader α) : Nat → Reader (List α)
  | 0 => return []
  | limit + 1 => (do let a ← r; return a :: (← repeated r limit)) <|> return []

/-- As often as it succeeds. A reader that takes at least one character with each success cannot
succeed more often than there are characters. -/
def many (r : Reader α) : Reader (List α) := do repeated r (← rest).length

def option (r : Reader α) : Reader (Option α) := (some <$> r) <|> return none

/-- Reads a text to its end. -/
def run? (r : Reader α) (cs : List Char) : Option α :=
  match r cs with
  | some (a, []) => some a
  | _ => none

end Reader

end Prelaunch.Text
