/-!
Lists in an order that is not for a program to choose. A hash table draws the order of its entries
anew in every run, and a file system has an order of its own for the names in a directory.
-/

namespace Prelaunch

section Ranks

variable {α : Type}

/-- Puts an item before the first one that does not have a lower rank. -/
def placeByRank (rank : α → Nat) (a : α) : List α → List α
  | [] => [a]
  | b :: rest => if rank a ≤ rank b then a :: b :: rest else b :: placeByRank rank a rest

/-- The items by their ranks. Those of one rank stay as they are listed. -/
def arranged (rank : α → Nat) (items : List α) : List α := items.foldr (placeByRank rank) []

end Ranks

/-- The hash tables through which settings go: the formats of files, a file, all variables, the
overrides among them by their paths, the settings as joined, and one group of these. -/
inductive HashTable where
  | formats
  | file
  | environment
  | overrides
  | settings
  | group (name : String)
  deriving DecidableEq, Repr

/-- The order of hash tables in one run: an entry with a lower rank in its table comes first. -/
structure HashOrder where
  rank : HashTable → String → Nat

namespace HashOrder

/-- Every table in the order in which its entries are listed. -/
def asListed : HashOrder := ⟨fun _ _ => 0⟩

/-- The entries of a table as they come. -/
def entries {α : Type} (o : HashOrder) (table : HashTable) (es : List (String × α)) :
    List (String × α) :=
  arranged (o.rank table ·.1) es

end HashOrder

end Prelaunch
