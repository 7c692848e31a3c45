import Prelaunch.Text.Utf8

/-!
The tokens of a JSON document. A text keeps its bytes as they are written, escapes included; a run
of bytes that is neither text nor punctuation is a bare word, whatever it means.
-/

namespace Prelaunch.Json

inductive Token where
  | openArray
  | closeArray
  | openObject
  | closeObject
  | comma
  | colon
  | text (raw : Bytes)
  | bare (word : Bytes)
  deriving DecidableEq, Repr

/-- What the next byte may go on with; bytes are kept in reverse. -/
inductive Lexing where
  | between
  | inText (raw : Bytes) (escaped : Bool)
  | inBare (word : Bytes)

namespace Lexing

def isBlank (b : UInt8) : Bool := b == 0x20 || b == 0x0A || b == 0x09 || b == 0x0D

def punctuation? (b : UInt8) : Option Token :=
  if b == 0x5B then some .openArray
  else if b == 0x5D then some .closeArray
  else if b == 0x7B then some .openObject
  else if b == 0x7D then some .closeObject
  else if b == 0x2C then some .comma
  else if b == 0x3A then some .colon
  else none

def quote : UInt8 := 0x22

def escape : UInt8 := 0x5C

/-- The tokens that a byte between tokens makes complete, and what it begins. -/
def fresh (b : UInt8) : List Token × Lexing :=
  if isBlank b then ([], .between)
  else if b == quote then ([], .inText [] false)
  else match punctuation? b with
    | some t => ([t], .between)
    | none => ([], .inBare [b])

def endsBare (b : UInt8) : Bool := isBlank b || b == quote || (punctuation? b).isSome

def next : Lexing → UInt8 → Option (List Token × Lexing)
  | .between, b => some (fresh b)
  | .inText raw true, b => some ([], .inText (b :: raw) false)
  | .inText raw false, b =>
    if b == quote then some ([.text raw.reverse], .between)
    else if b < 0x20 then none
    else some ([], .inText (b :: raw) (b == escape))
  | .inBare word, b =>
    if endsBare b then
      let (tokens, state) := fresh b
      some (.bare word.reverse :: tokens, state)
    else some ([], .inBare (b :: word))

def finish : Lexing → Option (List Token)
  | .between => some []
  | .inText .. => none
  | .inBare word => some [.bare word.reverse]

def run : Lexing → Bytes → Option (List Token)
  | s, [] => s.finish
  | s, b :: rest => do
    let (tokens, s) ← s.next b
    return tokens ++ (← run s rest)

end Lexing

def Token.ofBytes? (bs : Bytes) : Option (List Token) := Lexing.between.run bs

end Prelaunch.Json
