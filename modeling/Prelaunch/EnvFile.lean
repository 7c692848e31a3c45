import Prelaunch.FileTree
import Prelaunch.Text.Alphanumeric
import Prelaunch.Text.Blank

/-!
Files named `.env` that add variables to an environment. A line gives a name and a value; a value in
quotes may go on over several lines. Nothing that is set already is changed, and the first line that
cannot be read ends the file. No variable can hold a NUL, so a value with one ends the program.
-/

namespace Prelaunch

/-- The variables of a process. -/
abbrev Variables := OrderedMap Bytes Bytes

namespace EnvFile

open Text

/-! Lines. -/

/-- The bytes up to and with each line feed. -/
def cut (bs : Bytes) : List Bytes :=
  bs.foldr (fun b lines =>
    if b == 0x0A then [b] :: lines
    else match lines with
      | [] => [[b]]
      | line :: rest => (b :: line) :: rest) []

/-- Where a line stands with its quotes, as far as it has been read. -/
inductive Scan where
  | complete
  | blank
  | escape
  | weak
  | weakEscape
  | strong
  | strongEscape
  deriving DecidableEq, Repr

namespace Scan

def opening (c : Char) (otherwise : Scan) : Scan :=
  if c == '\\' then .escape else if c == '"' then .weak else if c == '\'' then .strong else otherwise

/-- The state after a character, unless a comment begins with it. -/
def next (s : Scan) (c : Char) : Option Scan :=
  match s with
  | .blank => if c == '#' then none else some (opening c .complete)
  | .escape => some .complete
  | .complete =>
    if isBlank c && c != '\n' && c != '\r' then some .blank else some (opening c .complete)
  | .weak => some (if c == '\\' then .weakEscape else if c == '"' then .complete else .weak)
  | .weakEscape => some .weak
  | .strong => some (if c == '\\' then .strongEscape else if c == '\'' then .complete else .strong)
  | .strongEscape => some .strong

/-- The characters before a comment, and the state at the end if there is none. -/
def run (s : Scan) : List Char → List Char × Option Scan
  | [] => ([], some s)
  | c :: rest => match s.next c with
    | none => ([], none)
    | some s =>
      let (kept, last) := run s rest
      (c :: kept, last)

end Scan

def dropBreak (cs : List Char) : List Char :=
  match cs.reverse with
  | '\n' :: '\r' :: rest => rest.reverse
  | '\n' :: rest => rest.reverse
  | _ => cs

/-- Joins the lines over which a value goes on to the text read before. What cannot be read is
`none`, and nothing comes after it. -/
def joined (before : List Char) (s : Scan) : List Bytes → List (Option (List Char))
  | [] => if s == .complete then [] else [none]
  | line :: rest => match Utf8.decode? line with
    | none => [none]
    | some text =>
      let cs := before ++ text.toList
      if (trimStart cs).head? == some '#' then some [] :: joined [] .complete rest
      else match s.run text.toList with
        | (kept, none) => some (before ++ kept) :: joined [] .complete rest
        | (_, some .complete) => some (dropBreak cs) :: joined [] .complete rest
        | (_, some s) => joined cs s rest

def lines (content : Bytes) : List (Option (List Char)) :=
  joined [] .complete (cut (Utf8.withoutMark content))

/-! Values. -/

inductive Quote where
  | none
  | weak
  | strong
  deriving DecidableEq, Repr

/-- The name of another variable that is being read, with braces or without. -/
structure Reference where
  hasBraces : Bool
  name : List Char

/-- A value that is being read. What is written and the name of a reference are in reverse. -/
structure Reading where
  written : List Char := []
  quote : Quote := .none
  isEscaped : Bool := false
  reference : Option Reference := none

namespace Reading

def push (r : Reading) (c : Char) : Reading := { r with written := c :: r.written }

def escapedChar? (c : Char) : Option Char :=
  if c == '\\' || c == '\'' || c == '"' || c == '$' || c == ' ' then some c
  else if c == 'n' then some '\n'
  else none

/-- Puts the value of the other variable in the place of its name. -/
def resolve (look : String → String) (r : Reading) (ref : Reference) : Reading :=
  { r with
    written := (look (String.ofList ref.name.reverse)).toList.reverse ++ r.written
    reference := none }

def takeReference (look : String → String) (r : Reading) (ref : Reference) (c : Char) : Reading :=
  if isAlphanumeric c then { r with reference := some { ref with name := c :: ref.name } }
  else if ref.hasBraces then
    if c == '\x7d' then r.resolve look ref
    else { r with reference := some { ref with name := c :: ref.name } }
  else if c == '\x7b' && ref.name.isEmpty then { r with reference := some ⟨true, []⟩ }
  else if c == '$' then { r.resolve look ref with reference := some ⟨false, []⟩ }
  else (r.resolve look ref).push c

/-- The reading after a character that does not end the value. -/
def take (look : String → String) (r : Reading) (c : Char) : Option Reading :=
  if r.isEscaped then
    (escapedChar? c).map fun e => { r.push e with isEscaped := false }
  else if r.quote == .strong then
    some (if c == '\'' then { r with quote := .none } else r.push c)
  else match r.reference with
    | some ref => some (r.takeReference look ref c)
    | none =>
      if c == '$' then some { r with reference := some ⟨false, []⟩ }
      else if c == '\\' then some { r with isEscaped := true }
      else if r.quote == .weak then
        some (if c == '"' then { r with quote := .none } else r.push c)
      else if c == '\'' then some { r with quote := .strong }
      else if c == '"' then some { r with quote := .weak }
      else some (r.push c)

/-- A blank outside quotes and references ends the value. -/
def isEndedBy (r : Reading) (c : Char) : Bool :=
  !r.isEscaped && r.quote == .none && r.reference.isNone && (c == ' ' || c == '\t')

def finish (look : String → String) (r : Reading) : Option String :=
  if r.quote != .none then none
  else match r.reference with
    | none => some (String.ofList r.written.reverse)
    | some ref =>
      if ref.hasBraces then none
      else some (String.ofList (r.resolve look ref).written.reverse)

/-- Only blanks and a comment may follow a value. -/
def isClosing (cs : List Char) : Bool :=
  match cs.dropWhile fun c => c == ' ' || c == '\t' with
  | [] => true
  | c :: _ => c == '#'

def run (look : String → String) (r : Reading) : List Char → Option String
  | [] => r.finish look
  | c :: rest =>
    if r.isEndedBy c then (if isClosing rest then r.finish look else none)
    else match r.take look c with
      | none => none
      | some r => run look r rest

end Reading

/-! Assignments. -/

def isNameStart (c : Char) : Bool := c.isAlpha || c == '_'

def isNameChar (c : Char) : Bool := c.isAlphanum || c == '_' || c == '.'

/-- A name, and what follows it without white space. -/
def name? (cs : List Char) : Option (String × List Char) :=
  if cs.head?.any isNameStart then
    some (String.ofList (cs.takeWhile isNameChar), trimStart (cs.dropWhile isNameChar))
  else none

/-- The name on a line, and what follows the equals sign. The word `export` may come before a name,
or be one. -/
def target? (cs : List Char) : Option (String × List Char) := do
  let (name, rest) ← name? cs
  match name, rest with
  | _, '=' :: value => return (name, trimStart value)
  | "export", _ =>
    match ← name? rest with
    | (name, '=' :: value) => return (name, trimStart value)
    | _ => none
  | _, _ => none

def isEmptyLine (cs : List Char) : Bool := cs.head?.all (· == '#')

/-- What a line assigns, or nothing if it is empty. -/
def assignment? (look : String → String) (line : List Char) : Option (Option (String × String)) :=
  let cs := trimStart (trimEnd line)
  if isEmptyLine cs then some none
  else do
    let (name, value) ← target? cs
    if isEmptyLine value then return some (name, "")
    return some (name, ← ({} : Reading).run look value)

/-! Files. -/

def textOf? (vars : Variables) (name : String) : Option String :=
  (vars.find? (Utf8.encode name)).bind Utf8.decode?

/-- The value of a name in the environment, or else as an earlier line gives it. -/
def look (vars : Variables) (given : List (String × String)) (name : String) : String :=
  (textOf? vars name).getD ((given.lookup name).getD "")

/-- Sets a variable, unless it is set to a text. A value that no variable can hold is `none`. -/
def assigned? (vars : Variables) (name value : String) : Option Variables :=
  if (textOf? vars name).isSome then some vars
  else if (Utf8.encode value).contains 0 then none
  else some (vars.insert (Utf8.encode name) (Utf8.encode value))

def addLines? (vars : Variables) (given : List (String × String)) :
    List (Option (List Char)) → Option Variables
  | [] => some vars
  | none :: _ => some vars
  | some line :: rest => match assignment? (look vars given) line with
    | none => some vars
    | some none => addLines? vars given rest
    | some (some (name, value)) =>
      (assigned? vars name value).bind fun vars => addLines? vars ((name, value) :: given) rest

def fileName : Bytes := Utf8.encode ".env"

/-- The file in the nearest of some directories that has one; each lies in the one after it. -/
def findUpward (t : FileTree) : List Bytes → Option Bytes
  | [] => content? []
  | name :: above => (content? (name :: above)).or (findUpward t above)
where
  content? (up : List Bytes) : Option Bytes :=
    match t.entry? (up.reverse ++ [fileName]) with
    | some (.file content _) => some content
    | _ => none

/-- The variables with those of the nearest file added, if all of them can be set. -/
def load? (t : FileTree) (cwd : Location) (vars : Variables) : Option Variables :=
  match findUpward t cwd.reverse with
  | none => some vars
  | some content => addLines? vars [] (lines content)

end EnvFile

end Prelaunch
