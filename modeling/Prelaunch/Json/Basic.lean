import Prelaunch.Json.Number
import Prelaunch.Json.Text
import Prelaunch.Json.Token

/-!
JSON documents. Texts and numbers are kept as they are written, so that a document can be well
formed although some part of it that nobody asks for has no value.
-/

namespace Prelaunch

inductive Json where
  | null
  | boolean (b : Bool)
  | number (n : Json.Number)
  | text (raw : Bytes)
  | array (items : List Json)
  | object (members : List (Bytes × Json))

namespace Json

def ofBare? (word : Bytes) : Option Json :=
  if word == Utf8.encode "null" then some .null
  else if word == Utf8.encode "true" then some (.boolean true)
  else if word == Utf8.encode "false" then some (.boolean false)
  else (Number.ofBytes? word).map .number

/-- An array or object that is not complete, with its parts in reverse. -/
inductive Frame where
  | array (items : List Json)
  | object (members : List (Bytes × Json)) (key : Bytes)

/-- What has been read of a document, and what has to come next. -/
inductive Reading where
  | value (outer : List Frame)
  | firstItem (outer : List Frame)
  | nextKey (members : List (Bytes × Json)) (outer : List Frame)
  | firstKey (outer : List Frame)
  | colon (members : List (Bytes × Json)) (key : Bytes) (outer : List Frame)
  | afterItem (items : List Json) (outer : List Frame)
  | afterMember (members : List (Bytes × Json)) (outer : List Frame)
  | complete (document : Json)

namespace Reading

/-- Puts a complete value where it belongs. -/
def close (v : Json) : List Frame → Reading
  | [] => .complete v
  | .array items :: outer => .afterItem (v :: items) outer
  | .object members key :: outer => .afterMember ((key, v) :: members) outer

def takeValue (outer : List Frame) : Token → Option Reading
  | .openArray => some (.firstItem outer)
  | .openObject => some (.firstKey outer)
  | .text raw => if hasSoundEscapes raw then some (close (.text raw) outer) else none
  | .bare word => (ofBare? word).map (close · outer)
  | _ => none

def takeKey (members : List (Bytes × Json)) (outer : List Frame) : Token → Option Reading
  | .text raw => if hasSoundEscapes raw then some (.colon members raw outer) else none
  | _ => none

def take : Reading → Token → Option Reading
  | .value outer, t => takeValue outer t
  | .firstItem outer, .closeArray => some (close (.array []) outer)
  | .firstItem outer, t => takeValue (.array [] :: outer) t
  | .nextKey members outer, t => takeKey members outer t
  | .firstKey outer, .closeObject => some (close (.object []) outer)
  | .firstKey outer, t => takeKey [] outer t
  | .colon members key outer, .colon => some (.value (.object members key :: outer))
  | .afterItem items outer, .comma => some (.value (.array items :: outer))
  | .afterItem items outer, .closeArray => some (close (.array items.reverse) outer)
  | .afterMember members outer, .comma => some (.nextKey members outer)
  | .afterMember members outer, .closeObject => some (close (.object members.reverse) outer)
  | _, _ => none

end Reading

def parse? (bs : Bytes) : Option Json := do
  match ← (← Token.ofBytes? bs).foldlM Reading.take (.value []) with
  | .complete document => some document
  | _ => none

mutual

/-- How many arrays and objects lie within each other at the most. -/
def depth : Json → Nat
  | .array items => depthOfItems items + 1
  | .object members => depthOfMembers members + 1
  | _ => 0

def depthOfItems : List Json → Nat
  | [] => 0
  | v :: rest => max v.depth (depthOfItems rest)

def depthOfMembers : List (Bytes × Json) → Nat
  | [] => 0
  | (_, v) :: rest => max v.depth (depthOfMembers rest)

end

end Json

end Prelaunch
