import Mathlib.Data.List.Induction
import Prelaunch.Proofs.Environment
import Prelaunch.Proofs.FileTree

/-!
Contents put where files may be. A write succeeds where its path leads to such a place, and replaces
what is there; of several contents for one place the last stays.
-/

namespace Prelaunch.FileTree

variable {t t' : FileTree} {cwd loc loc' : Location} {p p' : Path}

def isExecutableAt (t : FileTree) (loc : Location) : Bool :=
  match t.entry? loc with
  | some (.file _ isExecutable) => isExecutable
  | _ => false

/-- A file with the content at the location, executable as the one before it. -/
def fill (t : FileTree) (w : Location × Bytes) : FileTree :=
  t.put w.1 (.file w.2 (t.isExecutableAt w.1))

theorem find?_fill (t : FileTree) (w : Location × Bytes) (loc : Location) :
    (t.fill w).entries.find? loc =
      if loc = w.1 then some (.file w.2 (t.isExecutableAt w.1)) else t.entries.find? loc := by
  simp [fill, put, OrderedMap.find?_insert]

@[simp] theorem isExecutableAt_fill (t : FileTree) (w : Location × Bytes) (loc : Location) :
    (t.fill w).isExecutableAt loc = t.isExecutableAt loc := by
  by_cases hroot : loc = []
  · simp [isExecutableAt, hroot]
  · by_cases hloc : loc = w.1
    · subst hloc
      simp [isExecutableAt, entry?, hroot, find?_fill]
    · simp [isExecutableAt, entry?, hroot, find?_fill, hloc]

@[simp] theorem isExecutableAt_foldl_fill (ws : List (Location × Bytes)) (t : FileTree)
    (loc : Location) : (ws.foldl fill t).isExecutableAt loc = t.isExecutableAt loc := by
  induction ws generalizing t with
  | nil => rfl
  | cons w ws ih => rw [List.foldl_cons, ih, isExecutableAt_fill]

/-- Of all contents for one location the last is there in the end. -/
theorem find?_foldl_fill (ws : List (Location × Bytes)) (t : FileTree) (loc : Location) :
    (ws.foldl fill t).entries.find? loc =
      ((ws.reverse.lookup loc).map (.file · (t.isExecutableAt loc))).or (t.entries.find? loc) := by
  induction ws using List.reverseRecOn with
  | nil => rfl
  | append_singleton ws w ih =>
      rw [List.foldl_append, List.foldl_cons, List.foldl_nil, find?_fill, ih,
        isExecutableAt_foldl_fill, List.reverse_append, List.reverse_singleton,
        List.singleton_append, List.lookup_cons]
      by_cases hloc : loc = w.1
      · simp [hloc]
      · simp [hloc, beq_false_of_ne hloc]

theorem foldl_fill_twice (ws : List (Location × Bytes)) (t : FileTree) :
    ws.foldl fill (ws.foldl fill t) = ws.foldl fill t := by
  have hentries : (ws.foldl fill (ws.foldl fill t)).entries = (ws.foldl fill t).entries := by
    apply OrderedMap.eq_of_find?_eq
    intro loc
    rw [find?_foldl_fill, isExecutableAt_foldl_fill, find?_foldl_fill]
    cases ws.reverse.lookup loc <;> simp
  exact congrArg FileTree.mk hentries

/-- The path leads to a location where a file is or may be made. -/
structure Takes (t : FileTree) (cwd : Location) (p : Path) (loc : Location) : Prop where
  endsInSeparator : p.endsInSeparator = false
  locate : t.locate cwd p = .ok loc
  free : t.entry? loc ≠ some .directory

theorem endsInSeparator_of_write {content : Bytes} (h : t.write cwd p content = .ok t') :
    p.endsInSeparator = false := by
  unfold write at h
  obtain ⟨-, -, h⟩ := bind_eq_ok.1 h
  obtain ⟨loc, -, h⟩ := bind_eq_ok.1 h
  cases hend : p.endsInSeparator with
  | false => rfl
  | true =>
      -- such a path asks for a directory, so nothing is written there
      simp only [hend, if_true] at h
      split at h <;> cases h

theorem write_eq_ok_iff {content : Bytes} :
    t.write cwd p content = .ok t' ↔
      ∃ loc, t.Takes cwd p loc ∧ t' = t.fill (loc, content) := by
  constructor
  · intro h
    have hend := endsInSeparator_of_write h
    obtain ⟨loc, x, hloc, hfree, rfl, rfl⟩ := (write_eq_ok hend).1 h
    exact ⟨loc, ⟨hend, hloc, hfree⟩, rfl⟩
  · rintro ⟨loc, ⟨hend, hloc, hfree⟩, rfl⟩
    exact (write_eq_ok hend).2 ⟨loc, t.isExecutableAt loc, hloc, hfree, rfl, rfl⟩

theorem Takes.keepsDirectories (h : t.Takes cwd p loc) (content : Bytes) :
    KeepsDirectories t (t.fill (loc, content)) :=
  keepsDirectories_put h.free _

/-- Putting a content at one such location leaves the others as free as they were. -/
theorem Takes.fill (h : t.Takes cwd p loc) (h' : t.Takes cwd p' loc') (content : Bytes) :
    (t.fill (loc', content)).Takes cwd p loc where
  endsInSeparator := h.endsInSeparator
  locate := (h'.keepsDirectories content).locate h.locate
  free := by
    have hroot : loc' ≠ [] := by
      rintro rfl
      exact h'.free rfl
    rw [FileTree.fill, entry?_put t loc' loc _ hroot]
    split
    · simp
    · exact h.free

end Prelaunch.FileTree
