import Prelaunch.Toml.Table

/-!
Reading TOML documents.
-/

namespace Prelaunch.Toml

open Text

namespace Parser

def isBlank (c : Char) : Bool := c == ' ' || c == '\t'

/-- No control character but the tab may stand in a document, line breaks apart. -/
def isPrinting (c : Char) : Bool := (0x20 ≤ c.toNat && c.toNat != 0x7F) || c == '\t'

def blanks : Reader Unit := Reader.skipWhile isBlank

def lineBreak : Reader Unit := Reader.literal "\n" <|> Reader.literal "\x0d\n"

def comment : Reader Unit := do
  Reader.char '#'
  Reader.skipWhile isPrinting

/-- Blanks, comments and line breaks. -/
def filler : Reader Unit := do
  blanks
  let _ ← Reader.many do
    let _ ← Reader.option comment
    lineBreak
    blanks

/-! Texts. -/

def hexChar (places : Nat) : Reader Char := do
  let n := Scalar.valueIn 16 (← Reader.count places Scalar.isHexDigit)
  if n.isValidChar then return Char.ofNat n else failure

def escaped : Reader Char := do
  Reader.char '\\'
  match ← Reader.satisfying fun _ => true with
  | 'b' => return '\x08'
  | 't' => return '\t'
  | 'n' => return '\n'
  | 'f' => return '\x0c'
  | 'r' => return '\r'
  | 'e' => return '\x1b'
  | '"' => return '"'
  | '\\' => return '\\'
  | 'x' => hexChar 2
  | 'u' => hexChar 4
  | 'U' => hexChar 8
  | _ => failure

def basicText : Reader String := do
  Reader.char '"'
  let cs ← Reader.many
    (escaped <|> Reader.satisfying fun c => isPrinting c && c != '"' && c != '\\')
  Reader.char '"'
  return String.ofList cs

def literalText : Reader String := do
  Reader.char '\''
  let cs ← Reader.takeWhile fun c => isPrinting c && c != '\''
  Reader.char '\''
  return String.ofList cs

/-- A backslash at the end of a line leaves out all white space up to the next character. -/
def foldedBreak : Reader (List Char) := do
  Reader.char '\\'
  blanks
  lineBreak
  let _ ← Reader.many ((do let _ ← Reader.satisfying isBlank) <|> lineBreak)
  return []

def keptBreak : Reader (List Char) := do
  lineBreak
  return ['\n']

/-- Text over several lines. Up to two quotes may stand right before the three that end it. -/
def longText (quote : Char) (piece : Reader (List Char)) : Reader String := do
  let fence := String.ofList [quote, quote, quote]
  Reader.literal fence
  let _ ← Reader.option lineBreak
  let cs ← Reader.many do
    if ← Reader.followedBy fence then failure
    (do Reader.char quote; return [quote]) <|> keptBreak <|> piece
  Reader.literal fence
  let extra ← Reader.repeated (Reader.char quote) 2
  return String.ofList (cs.flatten ++ List.replicate extra.length quote)

def single (c : Char) : List Char := [c]

def longBasicText : Reader String :=
  longText '"' (foldedBreak <|> single <$> escaped <|>
    single <$> Reader.satisfying fun c => isPrinting c && c != '"' && c != '\\')

def longLiteralText : Reader String :=
  longText '\'' (single <$> Reader.satisfying fun c => isPrinting c && c != '\'')

def text : Reader String := do
  if ← Reader.followedBy "\"\"\"" then longBasicText
  else if ← Reader.followedBy "'''" then longLiteralText
  else basicText <|> literalText

/-! Keys. -/

def isBareKey (c : Char) : Bool := c.isAlphanum || c == '_' || c == '-'

def bareKey : Reader String := String.ofList <$> Reader.takeWhile1 isBareKey

def simpleKey : Reader String := bareKey <|> basicText <|> literalText

/-- A path of keys and the last key. -/
def key : Reader (List String × String) := do
  let first ← simpleKey
  let more ← Reader.many do
    blanks
    Reader.char '.'
    blanks
    simpleKey
  let keys := first :: more
  return (keys.dropLast, keys.getLast?.getD "")

/-! Values. -/

def isWord (c : Char) : Bool :=
  c.isAlphanum || c == '_' || c == '-' || c == '+' || c == ':' || c == '.'

def isDate (cs : List Char) : Bool := (Reader.run? Scalar.date cs).isSome

/-- A word. A blank may stand between a date and a time. -/
def word : Reader (List Char) := do
  let first ← Reader.takeWhile1 isWord
  let more ← if isDate first then
      Reader.option do
        Reader.char ' '
        let second ← Reader.takeWhile1 isWord
        return ' ' :: second
    else pure none
  return first ++ more.getD []

def scalar : Reader Value := do
  match Scalar.ofChars? (← word) with
  | some s => return .scalar s
  | none => failure

/-- Items between commas. One comma may stand after the last. -/
def items {α : Type} (item : Reader α) : Reader (List α) := do
  filler
  let first ← Reader.option item
  match first with
  | none => return []
  | some first =>
    let more ← Reader.many do
      filler
      Reader.char ','
      filler
      item
    filler
    let _ ← Reader.option (Reader.char ',')
    filler
    return first :: more

def assignment (value : Reader Value) : Reader Assignment := do
  let (path, key) ← key
  blanks
  Reader.char '='
  blanks
  return ⟨path, key, ← value⟩

/-- A value in which arrays and tables lie within each other at most `depth` times. -/
def value : Nat → Reader Value
  | 0 => Value.text <$> text <|> scalar
  | depth + 1 => do
    match ← Reader.peek? with
    | some '[' =>
      Reader.char '['
      let vs ← items (value depth)
      Reader.char ']'
      return .array vs
    | some '\x7b' =>
      Reader.char '\x7b'
      let as ← items (assignment (value depth))
      Reader.char '\x7d'
      match tableOf as with
      | some t => return t
      | none => failure
    | _ => Value.text <$> text <|> scalar

def maxDepth : Nat := 80

/-! Lines. -/

inductive Line where
  | empty
  | header (h : Header)
  | assignment (a : Assignment)

def tableHeader : Reader Header := do
  Reader.char '['
  blanks
  let (path, key) ← key
  blanks
  Reader.char ']'
  return .table path key

def itemHeader : Reader Header := do
  Reader.literal "[["
  blanks
  let (path, key) ← key
  blanks
  Reader.literal "]]"
  return .item path key

def line : Reader Line := do
  blanks
  let content ← Reader.option
    (Line.header <$> itemHeader <|> Line.header <$> tableHeader <|>
      Line.assignment <$> assignment (value maxDepth))
  blanks
  let _ ← Reader.option comment
  return content.getD .empty

def lines : Reader (List Line) := do
  let more ← Reader.many do
    let l ← line
    lineBreak
    return l
  return more ++ [← line]

/-- Gives every assignment to the header before it. -/
def addLine (ss : List Section) : Line → List Section
  | .empty => ss
  | .header h => ⟨h, []⟩ :: ss
  | .assignment a => match ss with
    | [] => []
    | s :: rest => { s with assignments := s.assignments ++ [a] } :: rest

def sections (ls : List Line) : List Section := (ls.foldl addLine [⟨.root, []⟩]).reverse

end Parser

/-- The entries of a document, which a byte-order mark may precede. -/
def parse? (s : String) : Option (List (String × Value)) := do
  let cs := match s.toList with
    | '\uFEFF' :: rest => rest
    | cs => cs
  ofSections (Parser.sections (← Reader.run? Parser.lines cs))

end Prelaunch.Toml
