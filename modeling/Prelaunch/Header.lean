import Prelaunch.Text.Affix
import Prelaunch.Text.Blank
import Prelaunch.Text.Lowercase
import Prelaunch.Text.Utf8

/-!
Fields of a request header. A name is a token in lower case, a value is a run of bytes without
control characters, and a sensitive field is left out of what is shown to people.
-/

namespace Prelaunch

structure Header where
  name : String
  value : Bytes
  sensitive : Bool
  deriving DecidableEq, Repr

inductive HeaderError where
  | missingSeparator
  | emptyName
  | invalidName (name : String)
  | invalidValue
  deriving DecidableEq, Repr

def HeaderError.message : HeaderError → String
  | .missingSeparator => "expected 'Name: value', no ':' found"
  | .emptyName => "header name is empty"
  | .invalidName name => "invalid header name '" ++ name ++ "'"
  | .invalidValue => "header value contains invalid characters"

namespace Header

def isTokenChar (c : Char) : Bool :=
  c.isAlphanum || "!#$%&'*+-.^_\x60|~".toList.contains c

def maxNameLength : Nat := 65535

def isName (name : String) : Bool :=
  !name.isEmpty && name.toList.all isTokenChar && name.toList.length ≤ maxNameLength

def isValueByte (b : UInt8) : Bool := b == 0x09 || (0x20 ≤ b && b != 0x7F)

def value? (text : String) : Except HeaderError Bytes :=
  let bytes := Utf8.encode text
  if bytes.all isValueByte then .ok bytes else .error .invalidValue

/-- Reads `Name: value`, the form in which an operator writes a header. -/
def parse (raw : String) : Except HeaderError Header := do
  let some (before, after) := Text.splitFirst? ':' raw | throw .missingSeparator
  let name := Text.trim before
  if name.isEmpty then throw .emptyName
  if !isName name then throw (.invalidName name)
  let value ← value? (Text.trim after)
  return ⟨Text.asciiLower name, value, true⟩

/-- The field `Authorization` with a token as its whole value. -/
def authorization (token : String) : Except HeaderError Header :=
  (value? token).map (⟨"authorization", ·, true⟩)

end Header

end Prelaunch
