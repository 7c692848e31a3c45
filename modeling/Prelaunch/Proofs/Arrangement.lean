import Mathlib.Data.List.Perm.Basic
import Prelaunch.Arrangement

/-!
What does not depend on an order: which items there are, and in what order those of one rank come.
-/

namespace Prelaunch

section Ranks

variable {α : Type} (rank : α → Nat)

theorem placeByRank_perm (a : α) (items : List α) : (placeByRank rank a items).Perm (a :: items) := by
  induction items with
  | nil => exact .refl _
  | cons b rest ih =>
      unfold placeByRank
      split
      · exact .refl _
      · exact (ih.cons b).trans (.swap a b rest)

theorem arranged_perm (items : List α) : (arranged rank items).Perm items := by
  induction items with
  | nil => exact .refl _
  | cons a rest ih => exact (placeByRank_perm rank a (arranged rank rest)).trans (ih.cons a)

variable {rank} {r : Nat} {p : α → Bool}

/-- An item of some rank is put before all others of this rank. -/
theorem filter_placeByRank (hrank : ∀ a, p a = true → rank a = r) (a : α) (items : List α) :
    (placeByRank rank a items).filter p = (a :: items).filter p := by
  induction items with
  | nil => rfl
  | cons b rest ih =>
      unfold placeByRank
      split
      · rfl
      · rename_i hlower
        rw [List.filter_cons, ih]
        cases ha : p a <;> cases hb : p b <;> simp [ha, hb]
        -- items of one rank are not told apart, so the second one had no lower rank
        exact absurd (Nat.le_of_eq ((hrank a ha).trans (hrank b hb).symm)) hlower

theorem filter_arranged (hrank : ∀ a, p a = true → rank a = r) (items : List α) :
    (arranged rank items).filter p = items.filter p := by
  induction items with
  | nil => rfl
  | cons a rest ih =>
      show (placeByRank rank a (arranged rank rest)).filter p = _
      rw [filter_placeByRank hrank, List.filter_cons, List.filter_cons, ih]

end Ranks

namespace HashOrder

variable {α : Type} {es : List (String × α)} {e : String × α}

@[simp] theorem mem_entries {o : HashOrder} {table : HashTable} :
    e ∈ o.entries table es ↔ e ∈ es :=
  (arranged_perm _ es).mem_iff

/-- The entries of one key come as they are listed. -/
theorem filter_entries (o : HashOrder) (table : HashTable) (es : List (String × α))
    (key : String) : (o.entries table es).filter (·.1 == key) = es.filter (·.1 == key) :=
  filter_arranged (fun _ hkey => congrArg (o.rank table) (beq_iff_eq.1 hkey)) es

end HashOrder

end Prelaunch
