import Prelaunch.Proofs.Credential

/-!
Domain names by their labels. A name is its labels with a dot after each but the last. So a name is
in a domain, by its text, if it ends in all the labels of the domain, and part of a label does not
count.
-/

namespace Prelaunch

namespace Text

variable {α : Type} {sep : α} {xs ys : List α}

theorem intercalate_append (before : List (List α)) {after : List (List α)} (hafter : after ≠ []) :
    [sep].intercalate (before ++ after) =
      before.flatMap (· ++ [sep]) ++ [sep].intercalate after := by
  induction before with
  | nil => rfl
  | cons part before ih =>
      have hrest : before ++ after ≠ [] := List.append_ne_nil_of_right_ne_nil _ hafter
      rw [List.cons_append, List.intercalate_cons_of_ne_nil hrest, ih, List.flatMap_cons,
        List.append_assoc (part ++ [sep])]

/-- The parts of one list are the last parts of another if the other is the same or continues it to
the left of a separator. -/
theorem splitOn_isSuffix_iff [BEq α] [LawfulBEq α] :
    ys.splitOn sep <:+ xs.splitOn sep ↔ xs = ys ∨ ∃ before, xs = before ++ sep :: ys := by
  constructor
  · rintro ⟨parts, hparts⟩
    have hxs : xs = parts.flatMap (· ++ [sep]) ++ ys := by
      have hjoin := congrArg [sep].intercalate hparts
      rwa [intercalate_append parts (List.splitOn_ne_nil sep ys), List.intercalate_splitOn,
        List.intercalate_splitOn, eq_comm] at hjoin
    -- the last part before those of `ys` leaves its separator in front of `ys`
    obtain rfl | ⟨earlier, last, rfl⟩ := List.eq_nil_or_concat' parts
    · exact .inl hxs
    · refine .inr ⟨earlier.flatMap (· ++ [sep]) ++ last, ?_⟩
      simpa using hxs
  · rintro (rfl | ⟨before, rfl⟩)
    · exact List.suffix_rfl
    · rw [List.splitOn_append_cons_self]
      exact List.suffix_append _ _

end Text

namespace ProviderScheme

variable {name domain : String}

/-- What stands before, between and after the dots of a domain name. -/
def labels (name : String) : List (List Char) := name.toList.splitOn '.'

theorem labels_isSuffix_iff :
    labels domain <:+ labels name ↔ name = domain ∨ ∃ sub, name = sub ++ "." ++ domain := by
  unfold labels
  rw [Text.splitOn_isSuffix_iff, String.toList_inj]
  refine or_congr_right ⟨?_, ?_⟩
  · rintro ⟨before, hbefore⟩
    refine ⟨String.ofList before, ?_⟩
    rw [← String.toList_inj, hbefore]
    simp
  · rintro ⟨sub, rfl⟩
    exact ⟨sub.toList, by simp⟩

/-- A host is in a domain exactly if the labels of the domain, in lower case, are the last labels of
the host that the URL is parsed to have. -/
theorem host_is_in_domain_iff_labels_end (domain url : String) :
    isHostIn domain url = true ↔ ∃ u host, Url.parse url = .ok u ∧ u.hostText? = some host ∧
      labels (Text.asciiLower domain) <:+ labels host := by
  rw [isHostIn_iff]
  unfold HasHostIn
  simp only [labels_isSuffix_iff]

/-- The host may be spelled in any way, but a dot at its end makes one more label. -/
example : isHostIn "B.c" "http://b.c@a.%42.C:80/" = true ∧
    isHostIn "b.c" "http://b.c./" = false := by
  decide +kernel

end ProviderScheme

end Prelaunch
