import Mathlib.Data.List.DropRight
import Prelaunch.Text.Affix
import Prelaunch.Text.Blank

/-!
Texts with the blanks around them taken off, and texts that are split at a character. Both are told
by how the whole text is put together from its parts.
-/

namespace Prelaunch.Text

variable {s core before after : String} {c : Char} {cs blanks : List Char}

/-! Blanks around a text. -/

/-- The text is `core` with blanks around it, and `core` neither begins nor ends with one. -/
structure IsPadded (core s : String) : Prop where
  blanks : ∃ before after, s = before ++ core ++ after ∧
    (∀ c ∈ before.toList, isBlank c = true) ∧ ∀ c ∈ after.toList, isBlank c = true
  head : ∀ c, core.toList.head? = some c → isBlank c = false
  last : ∀ c, core.toList.getLast? = some c → isBlank c = false

theorem isBlank_of_head?_dropWhile (h : (cs.dropWhile isBlank).head? = some c) :
    isBlank c = false := by
  have hnot := List.head?_dropWhile_not isBlank cs
  rwa [h] at hnot

theorem isPadded_trim (s : String) : IsPadded (trim s) s where
  blanks := by
    refine ⟨.ofList (s.toList.takeWhile isBlank),
      .ofList ((trimStart s.toList).rtakeWhile isBlank), ?_, ?_, ?_⟩
    · have hend : trimEnd (trimStart s.toList) ++ (trimStart s.toList).rtakeWhile isBlank =
          trimStart s.toList := List.rdropWhile_append_rtakeWhile
      rw [← String.toList_inj]
      simp only [String.toList_append, String.toList_ofList, trim, List.append_assoc, hend]
      exact List.takeWhile_append_dropWhile.symm
    · rw [String.toList_ofList]
      exact fun c hc => List.mem_takeWhile_imp hc
    · rw [String.toList_ofList]
      exact fun c hc => List.mem_rtakeWhile_imp hc
  head := by
    intro c hc
    rw [trim, String.toList_ofList] at hc
    -- what is left at the end is a beginning of what is left at the start
    obtain ⟨more, hmore⟩ : trimEnd (trimStart s.toList) <+: trimStart s.toList :=
      List.rdropWhile_prefix isBlank _
    have hhead : (trimStart s.toList).head? = some c := by
      rw [← hmore, List.head?_append, hc, Option.some_or]
    exact isBlank_of_head?_dropWhile hhead
  last := by
    intro c hc
    rw [trim, String.toList_ofList, trimEnd, List.getLast?_reverse] at hc
    exact isBlank_of_head?_dropWhile hc

theorem trimStart_append (hblanks : ∀ c ∈ blanks, isBlank c = true)
    (hhead : ∀ c, cs.head? = some c → isBlank c = false) : trimStart (blanks ++ cs) = cs := by
  rw [trimStart, List.dropWhile_append_of_pos hblanks]
  cases cs with
  | nil => rfl
  | cons c cs => rw [List.dropWhile_cons_of_neg (by simp [hhead c rfl])]

theorem trimEnd_append (hblanks : ∀ c ∈ blanks, isBlank c = true)
    (hlast : ∀ c, cs.getLast? = some c → isBlank c = false) : trimEnd (cs ++ blanks) = cs := by
  have hstart : trimStart (blanks.reverse ++ cs.reverse) = cs.reverse :=
    trimStart_append (fun c hc => hblanks c (List.mem_reverse.1 hc)) (by simpa using hlast)
  rw [trimStart] at hstart
  rw [trimEnd, List.reverse_append, hstart, List.reverse_reverse]

/-- There is one way to take the blanks off. -/
theorem isPadded_iff : IsPadded core s ↔ trim s = core := by
  constructor
  · rintro ⟨⟨before, after, rfl, hbefore, hafter⟩, hhead, hlast⟩
    rw [← String.toList_inj, trim, String.toList_ofList, String.toList_append,
      String.toList_append, List.append_assoc]
    cases hcore : core.toList with
    | nil =>
        have hall : ∀ c ∈ before.toList ++ after.toList, isBlank c = true := by
          intro c hc
          exact (List.mem_append.1 hc).elim (hbefore c) (hafter c)
        have hnone : trimStart (before.toList ++ after.toList ++ []) = [] :=
          trimStart_append hall nofun
        rw [List.append_nil] at hnone
        rw [List.nil_append, hnone]
        rfl
    | cons c cs =>
        rw [hcore] at hhead hlast
        have hstart : trimStart (before.toList ++ (c :: cs ++ after.toList)) =
            c :: cs ++ after.toList := trimStart_append hbefore hhead
        rw [hstart, trimEnd_append hafter hlast]
  · rintro rfl
    exact isPadded_trim s

/-- The text neither begins nor ends with a blank. -/
structure IsTrimmed (s : String) : Prop where
  head : ∀ c, s.toList.head? = some c → isBlank c = false
  last : ∀ c, s.toList.getLast? = some c → isBlank c = false

/-- There is nothing but blanks in the text. -/
def IsAllBlank (s : String) : Prop := ∀ c ∈ s.toList, isBlank c = true

instance (s : String) : Decidable (IsTrimmed s) :=
  decidable_of_iff (s.toList.head?.all (!isBlank ·) ∧ s.toList.getLast?.all (!isBlank ·)) <| by
    simp only [Option.all_eq_true, Bool.not_eq_true']
    exact ⟨fun ⟨hhead, hlast⟩ => ⟨hhead, hlast⟩, fun h => ⟨h.head, h.last⟩⟩

instance (s : String) : Decidable (IsAllBlank s) :=
  decidable_of_iff (s.toList.all isBlank) List.all_eq_true

theorem IsPadded.isTrimmed (h : IsPadded core s) : IsTrimmed core := ⟨h.head, h.last⟩

theorem IsTrimmed.isPadded (h : IsTrimmed core) (hbefore : IsAllBlank before)
    (hafter : IsAllBlank after) : IsPadded core (before ++ core ++ after) :=
  ⟨⟨before, after, rfl, hbefore, hafter⟩, h.head, h.last⟩

theorem isTrimmed_of_forall (h : ∀ c ∈ s.toList, isBlank c = false) : IsTrimmed s where
  head c hc := h c (List.mem_of_head? hc)
  last c hc := h c (List.mem_of_getLast? hc)

theorem isAllBlank_empty : IsAllBlank "" := nofun

/-! A text that is split at a character. -/

theorem splitFirst?_eq_none : splitFirst? c s = none ↔ c ∉ s.toList := by
  unfold splitFirst?
  split
  · rename_i hnil
    rw [List.dropWhile_eq_nil_iff] at hnil
    refine ⟨fun _ hc => ?_, fun _ => rfl⟩
    simpa using hnil c hc
  · rename_i hcons
    refine ⟨nofun, fun hc => ?_⟩
    have hnil : s.toList.dropWhile (· != c) = [] := by
      rw [List.dropWhile_eq_nil_iff]
      intro d hd
      exact bne_iff_ne.2 fun heq => hc (heq ▸ hd)
    rw [hnil] at hcons
    cases hcons

theorem splitFirst?_append (h : c ∉ before.toList) :
    splitFirst? c (before ++ String.singleton c ++ after) = some (before, after) := by
  have hne : ∀ d ∈ before.toList, (d != c) = true :=
    fun d hd => bne_iff_ne.2 fun heq => h (heq ▸ hd)
  have hlist : (before ++ String.singleton c ++ after).toList =
      before.toList ++ c :: after.toList := by simp
  rw [splitFirst?, hlist, List.dropWhile_append_of_pos hne, List.takeWhile_append_of_pos hne]
  simp

theorem splitFirst?_eq_some : splitFirst? c s = some (before, after) ↔
    s = before ++ String.singleton c ++ after ∧ c ∉ before.toList := by
  constructor
  · intro h
    unfold splitFirst? at h
    split at h
    · cases h
    · rename_i d rest hdrop
      obtain ⟨rfl, rfl⟩ := Prod.mk.inj (Option.some.inj h)
      obtain rfl : d = c := by
        have hnot := List.head?_dropWhile_not (· != c) s.toList
        rw [hdrop] at hnot
        simpa using hnot
      constructor
      · rw [← String.toList_inj]
        simp only [String.toList_append, String.toList_ofList, String.toList_singleton,
          List.append_assoc, List.singleton_append]
        rw [← hdrop, List.takeWhile_append_dropWhile]
      · rw [String.toList_ofList]
        intro hd
        simpa using List.mem_takeWhile_imp hd
  · rintro ⟨rfl, h⟩
    exact splitFirst?_append h

end Prelaunch.Text
