import Prelaunch.Text.Casing

/-!
Lower-casing of whole texts. One capital becomes two characters (İ), and a capital sigma that ends a
word becomes ς where any other becomes σ.
-/

namespace Prelaunch.Text

/-- The lower case of a character that stands alone. -/
def lowerChar (c : Char) : List Char :=
  if c == 'İ' then ['i', '\u0307']
  else match lowerRuns.find? (·.covers c.toNat) with
    | some run => [Char.ofNat (run.partner c.toNat)]
    | none => [c]

/-- Whether the first character that counts is cased. -/
def meetsCased (cs : List Char) : Bool :=
  match cs.dropWhile isCaseIgnorable with
  | [] => false
  | c :: _ => isCased c

/-- Lower-cases what follows the characters `before`, nearest first. -/
def lowerAfter (before : List Char) : List Char → List Char
  | [] => []
  | c :: rest =>
    (if c == 'Σ' then [if meetsCased before && !meetsCased rest then 'ς' else 'σ']
      else lowerChar c) ++ lowerAfter (c :: before) rest

def lowercase (s : String) : String := String.ofList (lowerAfter [] s.toList)

/-- The 26 basic letters in lower case, every other character as it is. -/
def asciiLower (s : String) : String := String.ofList (s.toList.map Char.toLower)

end Prelaunch.Text
