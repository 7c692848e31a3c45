/-!
Finite maps as lists of bindings in strictly increasing order of their keys, so that two maps with
the same bindings are equal.
-/

namespace Prelaunch

structure OrderedMap (κ : Type u) (ν : Type v) [LT κ] where
  entries : List (κ × ν)
  sorted : entries.Pairwise fun a b => a.1 < b.1
  deriving DecidableEq

namespace OrderedMap

section Bindings

variable {κ : Type u} {ν : Type v} [LT κ] [DecidableLT κ]

/-- Puts a binding in its place, over an older one of the same key. -/
def place (k : κ) (v : ν) : List (κ × ν) → List (κ × ν)
  | [] => [(k, v)]
  | e :: rest =>
    if k < e.1 then (k, v) :: e :: rest
    else if e.1 < k then e :: place k v rest
    else (k, v) :: rest

theorem mem_place {k : κ} {v : ν} {es : List (κ × ν)} {x : κ × ν} (h : x ∈ place k v es) :
    x = (k, v) ∨ x ∈ es := by
  induction es with
  | nil => simpa [place] using h
  | cons e rest ih =>
      unfold place at h
      split at h
      · simpa using h
      · split at h
        · rcases List.mem_cons.1 h with h | h
          · exact .inr (h ▸ List.mem_cons_self)
          · exact (ih h).imp id (List.mem_cons_of_mem e)
        · rcases List.mem_cons.1 h with h | h
          · exact .inl h
          · exact .inr (List.mem_cons_of_mem e h)

variable [LE κ] [Std.IsLinearOrder κ] [Std.LawfulOrderLT κ]

theorem place_sorted {k : κ} {v : ν} {es : List (κ × ν)}
    (h : es.Pairwise fun a b => a.1 < b.1) : (place k v es).Pairwise fun a b => a.1 < b.1 := by
  induction es with
  | nil => simp [place]
  | cons e rest ih =>
      have ⟨hhead, htail⟩ := List.pairwise_cons.1 h
      unfold place
      split
      · rename_i hlt
        refine List.pairwise_cons.2 ⟨fun x hx => ?_, h⟩
        rcases List.mem_cons.1 hx with rfl | hx
        · exact hlt
        · exact Std.lt_trans hlt (hhead x hx)
      · split
        · rename_i hnlt hgt
          refine List.pairwise_cons.2 ⟨fun x hx => ?_, ih htail⟩
          rcases mem_place hx with rfl | hx
          · exact hgt
          · exact hhead x hx
        · rename_i hnlt hngt
          refine List.pairwise_cons.2 ⟨fun x hx => ?_, htail⟩
          exact Std.lt_of_le_of_lt (Std.not_lt.1 hngt) (hhead x hx)

def insert (m : OrderedMap κ ν) (k : κ) (v : ν) : OrderedMap κ ν :=
  ⟨place k v m.entries, place_sorted m.sorted⟩

end Bindings

section Lookup

variable {κ : Type u} {ν : Type v} [LT κ]

def empty : OrderedMap κ ν := ⟨[], .nil⟩

instance : Inhabited (OrderedMap κ ν) := ⟨empty⟩

variable [BEq κ]

def find? (m : OrderedMap κ ν) (k : κ) : Option ν := m.entries.lookup k

def isEmpty (m : OrderedMap κ ν) : Bool := m.entries.isEmpty

@[simp] theorem find?_empty (k : κ) : (empty : OrderedMap κ ν).find? k = none := rfl

end Lookup

section Laws

variable {κ : Type u} {ν : Type v} [LT κ] [DecidableLT κ] [LE κ] [Std.IsLinearOrder κ]
  [Std.LawfulOrderLT κ] [BEq κ] [LawfulBEq κ]

theorem lookup_place (k k' : κ) (v : ν) (es : List (κ × ν)) :
    (place k v es).lookup k' = if k' == k then some v else es.lookup k' := by
  induction es with
  | nil => by_cases h : k' == k <;> simp [place, List.lookup_cons, h]
  | cons e rest ih =>
      obtain ⟨key, older⟩ := e
      unfold place
      split
      · by_cases h : k' == k <;> simp [List.lookup_cons, h]
      · split
        · rename_i hgt
          by_cases h : k' == key
          · have hk : (k' == k) = false := by
              rw [eq_of_beq h]
              exact beq_false_of_ne fun heq => Std.lt_irrefl (heq ▸ hgt)
            simp [List.lookup_cons, h, hk]
          · simp [List.lookup_cons, h, ih]
        · rename_i hnlt hngt
          have heq : k = key := Std.le_antisymm (Std.not_lt.1 hngt) (Std.not_lt.1 hnlt)
          by_cases h : k' == k
          · simp [List.lookup_cons, h]
          · have he : (k' == key) = false := by simpa [heq] using h
            simp [List.lookup_cons, h, he]

theorem find?_insert (m : OrderedMap κ ν) (k k' : κ) (v : ν) :
    (m.insert k v).find? k' = if k' == k then some v else m.find? k' :=
  lookup_place k k' v m.entries

end Laws

end OrderedMap

end Prelaunch
