import Prelaunch.FileTree
import Prelaunch.Proofs.Success

/-!
What a tree holds after a change, and where names lead in it. A walk depends on nothing but which
locations are directories, so it stays the same in every tree that keeps them.
-/

namespace Prelaunch.FileTree

variable {t t' : FileTree} {cwd here loc : Location} {p : Path}

@[simp] theorem entry?_root (t : FileTree) : t.entry? [] = some .directory := rfl

theorem entry?_put (t : FileTree) (loc loc' : Location) (e : FileEntry) (h : loc ≠ []) :
    entry? (t.put loc e) loc' = if loc' = loc then some e else t.entry? loc' := by
  unfold entry? put
  by_cases hroot : loc' = []
  · subst hroot
    simp [Ne.symm h]
  · simp [hroot, OrderedMap.find?_insert]

theorem entry?_put_self (h : loc ≠ []) (e : FileEntry) :
    entry? (t.put loc e) loc = some e := by
  simp [entry?_put t loc loc e h]

theorem entry?_put_of_ne {loc' : Location} (h : loc ≠ []) (hne : loc' ≠ loc) (e : FileEntry) :
    entry? (t.put loc e) loc' = t.entry? loc' := by
  simp [entry?_put t loc loc' e h, hne]

/-! Walks. -/

/-- Every directory of the first tree is one of the second. -/
def KeepsDirectories (t t' : FileTree) : Prop :=
  ∀ loc, t.entry? loc = some .directory → t'.entry? loc = some .directory

theorem KeepsDirectories.refl (t : FileTree) : KeepsDirectories t t := fun _ h => h

theorem KeepsDirectories.trans {t'' : FileTree} (h : KeepsDirectories t t')
    (h' : KeepsDirectories t' t'') : KeepsDirectories t t'' := fun loc hloc => h' loc (h loc hloc)

theorem keepsDirectories_put (h : t.entry? loc ≠ some .directory) (e : FileEntry) :
    KeepsDirectories t (t.put loc e) := by
  have hroot : loc ≠ [] := by
    rintro rfl
    exact h rfl
  intro loc' hdir
  have hne : loc' ≠ loc := by
    rintro rfl
    exact h hdir
  rw [entry?_put_of_ne hroot hne, hdir]

theorem walk_cons_eq_ok {name : Bytes} {rest : List Bytes} :
    t.walk here (name :: rest) = .ok loc ↔
      t.entry? here = some .directory ∧ ∃ next, step here name = .ok next ∧
        t.walk next rest = .ok loc := by
  rw [walk]
  split
  · simp_all
  · simp_all
  · rename_i h
    simp only [bind_eq_ok, h, true_and]

theorem walk_append_eq_ok {names more : List Bytes} :
    t.walk here (names ++ more) = .ok loc ↔
      ∃ next, t.walk here names = .ok next ∧ t.walk next more = .ok loc := by
  induction names generalizing here with
  | nil => simp [walk]
  | cons name rest ih =>
      simp only [List.cons_append, walk_cons_eq_ok, ih]
      constructor
      · rintro ⟨hdir, next, hstep, last, hrest, hmore⟩
        exact ⟨last, ⟨hdir, next, hstep, hrest⟩, hmore⟩
      · rintro ⟨last, ⟨hdir, next, hstep, hrest⟩, hmore⟩
        exact ⟨hdir, next, hstep, last, hrest, hmore⟩

theorem KeepsDirectories.walk (hkeep : KeepsDirectories t t') {names : List Bytes}
    (h : t.walk here names = .ok loc) : t'.walk here names = .ok loc := by
  induction names generalizing here with
  | nil => exact h
  | cons name rest ih =>
      obtain ⟨hdir, next, hstep, hrest⟩ := walk_cons_eq_ok.1 h
      exact walk_cons_eq_ok.2 ⟨hkeep _ hdir, next, hstep, ih hrest⟩

theorem step_currentName (here : Location) : step here Path.currentName = .ok here := by
  simp [step]

theorem step_eq_ok_of_normal {name : Bytes} {next : Location} (hdot : name ≠ Path.currentName)
    (hdots : name ≠ Path.parentName) (h : step here name = .ok next) : next = here ++ [name] := by
  unfold step at h
  simp only [beq_iff_eq, hdot, hdots, if_false] at h
  split at h
  · cases h
  · exact (Except.ok.inj h).symm

/-- Dots on the way change nothing. -/
theorem walk_filter_of_walk {names : List Bytes} (h : t.walk here names = .ok loc) :
    t.walk here (names.filter (· != Path.currentName)) = .ok loc := by
  induction names generalizing here with
  | nil => exact h
  | cons name rest ih =>
      obtain ⟨hhere, next, hstep, hrest⟩ := walk_cons_eq_ok.1 h
      by_cases hdot : name = Path.currentName
      · subst hdot
        obtain rfl : here = next := Except.ok.inj ((step_currentName here).symm.trans hstep)
        simpa using ih hrest
      · have hkept : (name != Path.currentName) = true := by simpa using hdot
        simp only [List.filter_cons, hkept, if_true]
        exact walk_cons_eq_ok.2 ⟨hhere, next, hstep, ih hrest⟩

/-! Writing. -/

theorem locate_eq_ok (hend : p.endsInSeparator = false) :
    t.locate cwd p = .ok loc ↔ checkPath p = .ok () ∧ t.walk (start cwd p) p.names = .ok loc := by
  unfold locate
  simp only [bind_eq_ok, hend, Bool.false_eq_true, if_false, List.append_nil]
  exact ⟨fun ⟨_, h⟩ => h, fun h => ⟨(), h⟩⟩

/-- A file is written where its path leads, unless a directory is there. -/
theorem write_eq_ok (hend : p.endsInSeparator = false) {content : Bytes} :
    t.write cwd p content = .ok t' ↔
      ∃ loc isExecutable, t.locate cwd p = .ok loc ∧ t.entry? loc ≠ some .directory ∧
        (isExecutable = match t.entry? loc with
          | some (.file _ x) => x
          | _ => false) ∧
        t' = t.put loc (.file content isExecutable) := by
  simp only [locate_eq_ok hend]
  unfold write
  cases hcheck : checkPath p with
  | error e => simp [bind, Except.bind]
  | ok u =>
      cases hwalk : t.walk (start cwd p) p.names with
      | error e => simp [bind, Except.bind]
      | ok loc =>
          simp only [bind, Except.bind, hend, Bool.false_eq_true, if_false, Except.ok.injEq,
            true_and, exists_and_left, exists_eq_left']
          rcases hentry : t.entry? loc with _ | ⟨_ | ⟨older, x⟩⟩
          · simp [pure, Except.pure, eq_comm]
          · simp [throw, throwThe, MonadExceptOf.throw]
          · simp [pure, Except.pure, eq_comm]

theorem KeepsDirectories.locate (hkeep : KeepsDirectories t t') (h : t.locate cwd p = .ok loc) :
    t'.locate cwd p = .ok loc := by
  unfold FileTree.locate at h ⊢
  obtain ⟨u, hcheck, hwalk⟩ := bind_eq_ok.1 h
  exact bind_eq_ok.2 ⟨u, hcheck, hkeep.walk hwalk⟩

theorem read?_of_entry {content : Bytes} {isExecutable : Bool} (hloc : t.locate cwd p = .ok loc)
    (hentry : t.entry? loc = some (.file content isExecutable)) :
    t.read? cwd p = some content := by
  simp [read?, find, hloc, hentry, bind, Except.bind, pure, Except.pure]

theorem read?_congr (hloc : t.locate cwd p = .ok loc) (hloc' : t'.locate cwd p = .ok loc)
    (hentry : t'.entry? loc = t.entry? loc) : t'.read? cwd p = t.read? cwd p := by
  simp [read?, find, hloc, hloc', hentry, bind, Except.bind]

/-- What a write leaves: the content at the path, and everything elsewhere as it was. -/
theorem write_spec (hend : p.endsInSeparator = false) {content : Bytes}
    (h : t.write cwd p content = .ok t') :
    ∃ loc, t.locate cwd p = .ok loc ∧ KeepsDirectories t t' ∧ t'.read? cwd p = some content ∧
      ∀ other, other ≠ loc → t'.entry? other = t.entry? other := by
  obtain ⟨loc, x, hloc, hdir, -, rfl⟩ := (write_eq_ok hend).1 h
  have hroot : loc ≠ [] := by
    rintro rfl
    exact hdir rfl
  have hkeep := keepsDirectories_put hdir (.file content x)
  exact ⟨loc, hloc, hkeep, read?_of_entry (hkeep.locate hloc) (entry?_put_self hroot _),
    fun other hne => entry?_put_of_ne hroot hne _⟩

end Prelaunch.FileTree
