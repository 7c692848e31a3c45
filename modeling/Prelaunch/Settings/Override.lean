import Prelaunch.Arrangement
import Prelaunch.Environment
import Prelaunch.Settings.Value
import Prelaunch.Text.Lowercase

/-!
Settings from variables whose names begin with `BOOTFETCH__`, in any letter case; two underscores in
the rest of a name stand for a dot. The variables go through a hash table and then, by the paths that
they spell, through another, so of two that spell one path either may count.
-/

namespace Prelaunch.Settings.Override

def start : String := "bootfetch__"

def dotted : List Char → List Char
  | '_' :: '_' :: rest => '.' :: dotted rest
  | c :: rest => c :: dotted rest
  | [] => []

/-- The path that the name of a variable spells, if it names a setting. -/
def path? (name : String) : Option String :=
  (Text.dropStart? start (Text.lowercase name)).map fun rest => String.ofList (dotted rest.toList)

/-- The first of these that the text is: a truth value, an integer, a number, a text. -/
def scalar (s : String) : Scalar :=
  let lower := Text.lowercase s
  if lower == "true" then .boolean true
  else if lower == "false" then .boolean false
  else match Integer.signed64OfText? s, Double.ofText? s with
    | some n, _ => .integer n
    | none, some x => .double x
    | none, none => .text s

/-- What a variable gives, if it names a setting. -/
def given? (v : String × String) : Option (String × Tree) :=
  (path? v.1).map (·, .scalar (some .environment) (scalar v.2))

/-- The variables that name settings. -/
def naming (env : Environment) : List (String × String) :=
  env.toList.filter fun v => (path? v.1).isSome

def source (o : HashOrder) (env : Environment) : Source :=
  o.entries .overrides (((o.entries .environment (naming env)).filterMap given?).foldl setEntry [])

end Prelaunch.Settings.Override
