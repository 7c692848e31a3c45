import Prelaunch.EnvFile
import Prelaunch.Proofs.Utf8.RoundTrip

/-!
What a file of variables changes. Each of its lines gives a text to one variable that has none, so a
variable that has a text keeps it, and the whole file only fills in. It does so up to its end, unless
a variable is to be filled in with a value that none can hold.
-/

namespace Prelaunch.EnvFile

variable {vars vars' vars'' : Variables}

/-- Every variable is as it was before, or had no text and has one now. -/
def FillsIn (vars vars' : Variables) : Prop :=
  ∀ name, vars'.find? name = vars.find? name ∨
    (vars.find? name).bind Utf8.decode? = none ∧ ∃ text, vars'.find? name = some (Utf8.encode text)

namespace FillsIn

theorem refl (vars : Variables) : FillsIn vars vars := fun _ => .inl rfl

theorem trans (h : FillsIn vars vars') (h' : FillsIn vars' vars'') : FillsIn vars vars'' := by
  intro name
  obtain heq | ⟨hnone, text, htext⟩ := h name
  · rw [← heq]
    exact h' name
  · obtain heq' | ⟨hnone', -⟩ := h' name
    · exact .inr ⟨hnone, text, heq'.trans htext⟩
    · -- what has been filled in has a text, so it is not filled in again
      rw [htext, Option.bind_some, Utf8.decode?_encode] at hnone'
      cases hnone'

theorem insert {name : String} (hnone : textOf? vars name = none) (text : String) :
    FillsIn vars (vars.insert (Utf8.encode name) (Utf8.encode text)) := by
  intro other
  rw [OrderedMap.find?_insert]
  by_cases heq : other = Utf8.encode name
  · subst heq
    exact .inr ⟨hnone, text, by simp⟩
  · exact .inl (by simp [heq])

theorem assigned? {name value : String} (h : assigned? vars name value = some vars') :
    FillsIn vars vars' := by
  unfold EnvFile.assigned? at h
  split at h
  · obtain rfl := Option.some.inj h
    exact .refl vars
  · rename_i hset
    split at h
    · cases h
    · obtain rfl := Option.some.inj h
      exact insert (by simpa using hset) value

theorem addLines? {given : List (String × String)} {lines : List (Option (List Char))}
    (h : addLines? vars given lines = some vars') : FillsIn vars vars' := by
  -- on the lines, whatever has been given before; the first that makes no sense ends the file
  induction lines generalizing vars given with
  | nil =>
      obtain rfl := Option.some.inj h
      exact .refl vars
  | cons line rest ih =>
      cases line with
      | none =>
          obtain rfl := Option.some.inj h
          exact .refl vars
      | some line =>
          unfold EnvFile.addLines? at h
          split at h
          · obtain rfl := Option.some.inj h
            exact .refl vars
          · exact ih h
          · obtain ⟨next, hassigned, hrest⟩ := Option.bind_eq_some_iff.1 h
            exact (FillsIn.assigned? hassigned).trans (ih hrest)

end FillsIn

/-- Some line gives a value with a NUL to a variable that has no text, as far as the lines before have
filled it in. -/
def GivesNul (vars : Variables) (lines : List (Option (List Char))) : Prop :=
  ∃ line, some line ∈ lines ∧ ∃ filled given name value, FillsIn vars filled ∧
    assignment? (look filled given) line = some (some (name, value)) ∧
    textOf? filled name = none ∧ 0 ∈ Utf8.encode value

theorem assigned?_eq_none {name value : String} (h : assigned? vars name value = none) :
    textOf? vars name = none ∧ 0 ∈ Utf8.encode value := by
  unfold assigned? at h
  split at h
  · cases h
  · rename_i hset
    split at h
    · rename_i hnul
      exact ⟨by simpa using hset, by simpa using hnul⟩
    · cases h

theorem givesNul_of_addLines? {given : List (String × String)} {lines : List (Option (List Char))}
    (h : addLines? vars given lines = none) : GivesNul vars lines := by
  induction lines generalizing vars given with
  | nil => cases h
  | cons line rest ih =>
      have hlater {next : Variables} (hfills : FillsIn vars next) (hrest : GivesNul next rest) :
          GivesNul vars (line :: rest) := by
        obtain ⟨later, hmem, filled, given', name, value, hfilled, hgives⟩ := hrest
        exact ⟨later, List.mem_cons_of_mem _ hmem, filled, given', name, value,
          hfills.trans hfilled, hgives⟩
      cases line with
      | none => cases h
      | some line =>
          unfold addLines? at h
          split at h
          · cases h
          · exact hlater (.refl vars) (ih h)
          · rename_i name value hassignment
            cases hassigned : assigned? vars name value with
            | some next =>
                rw [hassigned, Option.bind_some] at h
                exact hlater (.assigned? hassigned) (ih h)
            | none =>
                obtain ⟨hset, hnul⟩ := assigned?_eq_none hassigned
                exact ⟨line, List.mem_cons_self, vars, given, name, value, .refl vars,
                  hassignment, hset, hnul⟩

variable {t : FileTree} {cwd : Location}

theorem fillsIn_load? (h : load? t cwd vars = some vars') : FillsIn vars vars' := by
  unfold load? at h
  split at h
  · obtain rfl := Option.some.inj h
    exact .refl vars
  · exact .addLines? h

theorem givesNul_of_load? (h : load? t cwd vars = none) :
    ∃ content, findUpward t cwd.reverse = some content ∧ GivesNul vars (lines content) := by
  unfold load? at h
  split at h
  · cases h
  · rename_i content hfile
    exact ⟨content, hfile, givesNul_of_addLines? h⟩

end Prelaunch.EnvFile
