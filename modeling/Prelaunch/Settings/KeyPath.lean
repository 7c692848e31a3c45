import Prelaunch.Number.Numeral
import Prelaunch.Text.Reader

/-!
Paths of keys and indices that lead to a setting, such as `http.user_agent` or `a[0].b`.
-/

namespace Prelaunch.Settings

inductive Step where
  | key (name : String)
  | index (place : Int)
  deriving DecidableEq, Repr

/-- A path begins with a key. -/
structure KeyPath where
  first : String
  more : List Step
  deriving DecidableEq, Repr

namespace KeyPath

open Text

def isNameChar (c : Char) : Bool := c.isAlphanum || c == '_' || c == '-'

def name : Reader String := String.ofList <$> Reader.takeWhile1 isNameChar

def isBlank (c : Char) : Bool := c == ' ' || c == '\t'

/-- A place before the first item counts from the last. -/
def index : Reader Step := do
  Reader.char '['
  Reader.skipWhile isBlank
  let minus ← Reader.option (Reader.char '-')
  let digits ← Reader.takeWhile1 Char.isDigit
  Reader.skipWhile isBlank
  Reader.char ']'
  let n : Int := Numeral.digitsValue digits
  let place := if minus.isSome then -n else n
  if Integer.isSigned64 place then return .index place else failure

def step : Reader Step := (do Reader.char '.'; return .key (← name)) <|> index

def reader : Reader KeyPath := do return ⟨← name, ← Reader.many step⟩

/-- A text that is no path is one key as it stands. -/
def parse (s : String) : KeyPath := (Reader.run? reader s.toList).getD ⟨s, []⟩

end KeyPath

end Prelaunch.Settings
