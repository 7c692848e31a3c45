import Prelaunch.Path
import Prelaunch.Proofs.Utf8

/-!
The names of a path to which one more name is joined.
-/

namespace Prelaunch.Path

variable {p : Path}

/-- A name that leads one step down from any directory. -/
structure IsNormalName (name : Bytes) : Prop where
  ne_nil : name ≠ []
  separator_notMem : separator ∉ name
  nul_notMem : 0 ∉ name
  ne_currentName : name ≠ currentName
  ne_parentName : name ≠ parentName

/-- A name that leads somewhere is the last step of a path that ends in it. -/
theorem getLast?_steps {before : List Bytes} {name : Bytes} (hnames : p.names = before ++ [name])
    (hname : name ≠ currentName) : p.steps.getLast? = some name := by
  unfold steps
  rw [hnames]
  cases before with
  | nil => simp [hname]
  | cons first rest => simp [hname]

/-! Joining. -/

variable {name : String}

theorem names_append_separator (before after : Bytes) :
    names ⟨before ++ separator :: after⟩ = names ⟨before⟩ ++ names ⟨after⟩ := by
  simp [names, List.splitOn_append_cons_self]

theorem names_of_isNormalName (h : IsNormalName (Utf8.encode name)) :
    names (ofText name) = [Utf8.encode name] := by
  simp [names, ofText, List.splitOn_eq_singleton h.separator_notMem, h.ne_nil]

theorem isAbsolute_of_isNormalName (h : IsNormalName (Utf8.encode name)) :
    (ofText name).isAbsolute = false := by
  cases hname : Utf8.encode name with
  | nil => exact absurd hname h.ne_nil
  | cons b rest =>
      have hb : b ≠ separator := by
        rintro rfl
        exact h.separator_notMem (by simp [hname])
      simp [isAbsolute, ofText, hname, hb]

theorem join_of_isEmpty (hempty : p.isEmpty = true) (name : String) :
    p.join name = ofText name := by
  simp [join, append, hempty]

theorem join_eq (hempty : p.isEmpty = false) (h : IsNormalName (Utf8.encode name)) :
    (∃ before, p.bytes = before ++ [separator] ∧
        p.join name = ⟨before ++ separator :: Utf8.encode name⟩) ∨
      p.join name = ⟨p.bytes ++ separator :: Utf8.encode name⟩ := by
  have habs := isAbsolute_of_isNormalName h
  unfold join append
  simp only [habs, hempty, Bool.or_self, Bool.false_eq_true, if_false]
  cases hend : p.endsInSeparator with
  | false => exact .inr rfl
  | true =>
      obtain ⟨before, hbefore⟩ : ∃ before, p.bytes = before ++ [separator] :=
        List.getLast?_eq_some_iff.1 (by simpa [endsInSeparator] using hend)
      exact .inl ⟨before, hbefore, by simp [ofText, hbefore]⟩

theorem names_join (h : IsNormalName (Utf8.encode name)) :
    (p.join name).names = p.names ++ [Utf8.encode name] := by
  have hname := names_of_isNormalName h
  cases hempty : p.isEmpty with
  | true =>
      have hnil : p.names = [] := by simp [names, List.isEmpty_iff.1 hempty]
      rw [join_of_isEmpty hempty, hname, hnil, List.nil_append]
  | false =>
      obtain ⟨before, hp, hjoin⟩ | hjoin := join_eq hempty h
      · have hp' : p.names = names ⟨before⟩ ++ names ⟨[]⟩ := by
          rw [← names_append_separator, ← hp]
        rw [hjoin, names_append_separator, hp', show names ⟨Utf8.encode name⟩ = _ from hname]
        simp [names]
      · rw [hjoin, names_append_separator, show names ⟨Utf8.encode name⟩ = _ from hname]

theorem isAbsolute_join (h : IsNormalName (Utf8.encode name)) :
    (p.join name).isAbsolute = p.isAbsolute := by
  cases hempty : p.isEmpty with
  | true =>
      rw [join_of_isEmpty hempty, isAbsolute_of_isNormalName h]
      simp [isAbsolute, List.isEmpty_iff.1 hempty]
  | false =>
      obtain ⟨before, hp, hjoin⟩ | hjoin := join_eq hempty h
      · rw [hjoin]
        cases before <;> simp [isAbsolute, hp]
      · rw [hjoin]
        obtain ⟨_ | ⟨b, rest⟩⟩ := p
        · simp [isEmpty] at hempty
        · simp [isAbsolute]

theorem endsInSeparator_join (hempty : p.isEmpty = false)
    (h : IsNormalName (Utf8.encode name)) : (p.join name).endsInSeparator = false := by
  have hlast (before : Bytes) :
      endsInSeparator ⟨before ++ separator :: Utf8.encode name⟩ = false := by
    obtain ⟨b, hb⟩ := Option.ne_none_iff_exists'.1 (mt List.getLast?_eq_none_iff.1 h.ne_nil)
    have hne : b ≠ separator := by
      rintro rfl
      exact h.separator_notMem (List.mem_of_getLast? hb)
    simp [endsInSeparator, List.getLast?_append, List.getLast?_cons, hb, hne]
  obtain ⟨before, -, hjoin⟩ | hjoin := join_eq hempty h
  · rw [hjoin, hlast]
  · rw [hjoin, hlast]

/-- A path made by joining one normal name to another path. -/
def IsChildOf (p dir : Path) : Prop := ∃ name, p = dir.join name ∧ IsNormalName (Utf8.encode name)

theorem IsChildOf.endsInSeparator {dir : Path} (hempty : dir.isEmpty = false)
    (h : p.IsChildOf dir) : p.endsInSeparator = false := by
  obtain ⟨name, rfl, hname⟩ := h
  exact endsInSeparator_join hempty hname

theorem join_congr {other : String} (h : Utf8.encode name = Utf8.encode other) (p : Path) :
    p.join name = p.join other := by
  simp [join, ofText, h]

end Prelaunch.Path
