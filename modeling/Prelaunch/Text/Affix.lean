/-!
Beginnings and ends of texts.
-/

namespace Prelaunch.Text

/-- What follows the beginning `start`, if the text begins with it. -/
def dropStart? (start s : String) : Option String :=
  (start.toList.isPrefixOf? s.toList).map String.ofList

def startsWith (start s : String) : Bool := start.toList.isPrefixOf s.toList

def endsWith (ending s : String) : Bool := ending.toList.isSuffixOf s.toList

/-- The texts before and after the first character `c`. -/
def splitFirst? (c : Char) (s : String) : Option (String × String) :=
  match s.toList.dropWhile (· != c) with
  | [] => none
  | _ :: rest => some (String.ofList (s.toList.takeWhile (· != c)), String.ofList rest)

end Prelaunch.Text
