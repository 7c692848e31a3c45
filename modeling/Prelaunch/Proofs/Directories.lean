import Prelaunch.Proofs.FileTree
import Prelaunch.Proofs.Path

/-!
Making a directory with its parents. Whether it succeeds or not, nothing that was there before is
lost, and all that is new are directories on the way to the one asked for.
-/

namespace Prelaunch.FileTree

variable {t t' : FileTree} {cwd here loc : Location} {p : Path}

/-- No file is made, changed or removed. -/
def SameFiles (t t' : FileTree) : Prop :=
  ∀ loc content isExecutable, t'.entry? loc = some (.file content isExecutable) ↔
    t.entry? loc = some (.file content isExecutable)

/-- The second tree is the first with directories added where the first names of a walk lead. -/
structure AddsDirectories (here : Location) (names : List Bytes) (t t' : FileTree) : Prop where
  kept : ∀ {loc e}, t.entry? loc = some e → t'.entry? loc = some e
  added : ∀ {loc e}, t.entry? loc = none → t'.entry? loc = some e →
    e = .directory ∧ ∃ k, t'.walk here (names.take k) = .ok loc

namespace AddsDirectories

variable {names : List Bytes}

theorem refl (here : Location) (names : List Bytes) (t : FileTree) :
    AddsDirectories here names t t where
  kept h := h
  added hnone hsome := by simp [hnone] at hsome

theorem keepsDirectories (h : AddsDirectories here names t t') : KeepsDirectories t t' :=
  fun _ hdir => h.kept hdir

theorem trans {t'' : FileTree} (h : AddsDirectories here names t t')
    (h' : AddsDirectories here names t' t'') : AddsDirectories here names t t'' where
  kept hentry := h'.kept (h.kept hentry)
  added := by
    intro loc e hnone hsome
    cases hmiddle : t'.entry? loc with
    | none => exact h'.added hmiddle hsome
    | some e' =>
        obtain rfl : e' = e := Option.some.inj ((h'.kept hmiddle).symm.trans hsome)
        obtain ⟨hdir, k, hwalk⟩ := h.added hnone hmiddle
        exact ⟨hdir, k, h'.keepsDirectories.walk hwalk⟩

theorem append (h : AddsDirectories here names t t') (more : List Bytes) :
    AddsDirectories here (names ++ more) t t' where
  kept := h.kept
  added := by
    intro loc e hnone hsome
    obtain ⟨hdir, k, hwalk⟩ := h.added hnone hsome
    refine ⟨hdir, min k names.length, ?_⟩
    rw [List.take_append_of_le_length (Nat.min_le_right ..), ← List.take_eq_take_min]
    exact hwalk

theorem sameFiles (h : AddsDirectories here names t t') : SameFiles t t' := by
  refine fun loc content isExecutable => ⟨fun hafter => ?_, h.kept⟩
  cases hbefore : t.entry? loc with
  | none => cases (h.added hbefore hafter).1
  | some e => rw [← h.kept hbefore, hafter]

end AddsDirectories

theorem makeDirectory_eq_ok {names : List Bytes} :
    t.makeDirectory here names = .ok t' ↔
      ∃ loc, t.walk here names = .ok loc ∧ t.entry? loc = none ∧ t' = t.put loc .directory := by
  unfold makeDirectory
  cases hwalk : t.walk here names with
  | error e => simp [bind, Except.bind]
  | ok loc =>
      cases hentry : t.entry? loc <;>
        simp [bind, Except.bind, pure, Except.pure, throw, throwThe, MonadExceptOf.throw, hentry,
          eq_comm]

/-- Names lead to a directory. -/
def LeadsToDirectory (t : FileTree) (here : Location) (names : List Bytes) : Prop :=
  ∃ loc, t.walk here names = .ok loc ∧ t.entry? loc = some .directory

theorem isDirectoryAt_iff {names : List Bytes} :
    t.isDirectoryAt here names = true ↔ LeadsToDirectory t here names := by
  unfold isDirectoryAt LeadsToDirectory
  cases t.walk here names <;> simp

theorem makeDirectory_spec {names : List Bytes} (h : t.makeDirectory here names = .ok t') :
    AddsDirectories here names t t' ∧ LeadsToDirectory t' here names := by
  obtain ⟨loc, hwalk, hnone, rfl⟩ := makeDirectory_eq_ok.1 h
  have hroot : loc ≠ [] := by
    rintro rfl
    simp at hnone
  have hkeep : KeepsDirectories t (t.put loc .directory) :=
    keepsDirectories_put (by simp [hnone]) _
  refine ⟨⟨fun {loc' e} hentry => ?_, fun {loc' e} hnone' hsome => ?_⟩, loc, hkeep.walk hwalk,
    entry?_put_self hroot _⟩
  · have hne : loc' ≠ loc := by
      rintro rfl
      simp [hnone] at hentry
    rw [entry?_put_of_ne hroot hne, hentry]
  · by_cases heq : loc' = loc
    · subst heq
      rw [entry?_put_self hroot] at hsome
      exact ⟨(Option.some.inj hsome).symm, names.length, by simpa using hkeep.walk hwalk⟩
    · rw [entry?_put_of_ne hroot heq, hnone'] at hsome
      cases hsome

theorem leadsToDirectory_of_settled {names : List Bytes} {e : FileError}
    (h : (if e == .alreadyExists && t.isDirectoryAt here names then (.ok () : Except FileError Unit)
      else .error e) = .ok ()) : LeadsToDirectory t here names := by
  split at h
  · rename_i hcond
    exact isDirectoryAt_iff.1 (Bool.and_eq_true_iff.1 hcond).2
  · cases h

/-- A directory and its parents are made on a way that both the names and the parents keep to. -/
theorem makeWith_spec {names way : List Bytes} {parents : FileTree × Except FileError Unit}
    (hway : ∀ {t t'}, AddsDirectories here names t t' → AddsDirectories here way t t')
    (hparents : AddsDirectories here way t parents.1) :
    AddsDirectories here way t (t.makeWith here names parents).1 ∧
      ((t.makeWith here names parents).2 = .ok () →
        LeadsToDirectory (t.makeWith here names parents).1 here names) := by
  unfold makeWith
  dsimp only
  split
  · rename_i made hfirst
    obtain ⟨hadds, hleads⟩ := makeDirectory_spec hfirst
    exact ⟨hway hadds, fun _ => hleads⟩
  · split
    · exact ⟨hparents, fun hok => by cases hok⟩
    · split
      · rename_i made hsecond
        obtain ⟨hadds, hleads⟩ := makeDirectory_spec hsecond
        exact ⟨hparents.trans (hway hadds), fun _ => hleads⟩
      · exact ⟨hparents, leadsToDirectory_of_settled⟩
  · exact ⟨.refl here way t, leadsToDirectory_of_settled⟩

/-- The induction is on the names backwards, as the parents are made from the last one up. -/
theorem makeDirectories_adds (t : FileTree) (here : Location) (back : List Bytes) :
    AddsDirectories here back.reverse t (t.makeDirectories here back).1 := by
  induction back with
  | nil => exact .refl _ _ _
  | cons last before ih =>
      have hgrow : AddsDirectories here (last :: before).reverse t (t.makeDirectories here before).1 := by
        simpa using ih.append [last]
      rw [makeDirectories]
      exact (makeWith_spec id hgrow).1

/-! The directory that a path names. -/

theorem find_eq_ok_of_walk (hcheck : checkPath p = .ok ())
    (hwalk : t.walk (start cwd p) p.names = .ok loc) (hdir : t.entry? loc = some .directory) :
    t.find cwd p = .ok (loc, .directory) := by
  have hloc : t.locate cwd p = .ok loc := by
    unfold locate
    cases hend : p.endsInSeparator with
    | false => simpa [hcheck, hend, bind, Except.bind] using hwalk
    | true =>
        have hdot : t.walk loc [Path.currentName] = .ok loc :=
          walk_cons_eq_ok.2 ⟨hdir, loc, step_currentName loc, rfl⟩
        simpa [hcheck, hend, bind, Except.bind] using walk_append_eq_ok.2 ⟨loc, hwalk, hdot⟩
  simp [find, hloc, hdir, bind, Except.bind, pure, Except.pure]

/-- Where some first names of a path lead, some first steps of it lead too. -/
theorem exists_walk_take_steps {k : Nat} (h : t.walk (start cwd p) (p.names.take k) = .ok loc) :
    ∃ k', t.walk (start cwd p) (p.steps.take k') = .ok loc := by
  unfold Path.steps
  cases hnames : p.names with
  | nil => exact ⟨0, by simpa [hnames] using h⟩
  | cons first rest =>
      rw [hnames] at h
      cases k with
      | zero => exact ⟨0, h⟩
      | succ k =>
          rw [List.take_succ_cons] at h
          have hprefix : (rest.take k).filter (· != Path.currentName) <+:
              rest.filter (· != Path.currentName) := (List.take_prefix k rest).filter _
          dsimp only
          split
          · rename_i hfirst
            obtain ⟨rfl, -⟩ : first = Path.currentName ∧ p.isAbsolute = true := by simpa using hfirst
            refine ⟨((rest.take k).filter (· != Path.currentName)).length, ?_⟩
            rw [List.nil_append, ← List.prefix_iff_eq_take.1 hprefix]
            simpa using walk_filter_of_walk h
          · obtain ⟨hhere, next, hstep, hrest⟩ := walk_cons_eq_ok.1 h
            refine ⟨((rest.take k).filter (· != Path.currentName)).length + 1, ?_⟩
            rw [List.singleton_append, List.take_succ_cons, ← List.prefix_iff_eq_take.1 hprefix]
            exact walk_cons_eq_ok.2 ⟨hhere, next, hstep, walk_filter_of_walk hrest⟩

theorem AddsDirectories.of_names (h : AddsDirectories (start cwd p) p.names t t') :
    AddsDirectories (start cwd p) p.steps t t' where
  kept := h.kept
  added hnone hsome := by
    obtain ⟨hdir, k, hwalk⟩ := h.added hnone hsome
    exact ⟨hdir, exists_walk_take_steps hwalk⟩

theorem makeWith_names_spec (t : FileTree) (cwd : Location) (p : Path) :
    let made := t.makeWith (start cwd p) p.names
      (t.makeDirectories (start cwd p) p.steps.dropLast.reverse)
    AddsDirectories (start cwd p) p.steps t made.1 ∧
      (made.2 = .ok () → LeadsToDirectory made.1 (start cwd p) p.names) := by
  have hparents := makeDirectories_adds t (start cwd p) p.steps.dropLast.reverse
  obtain ⟨last, hlast⟩ := List.dropLast_prefix p.steps
  refine makeWith_spec AddsDirectories.of_names ?_
  rw [List.reverse_reverse] at hparents
  simpa only [hlast] using hparents.append last

theorem ensureDirectory_adds (t : FileTree) (cwd : Location) (p : Path) :
    AddsDirectories (start cwd p) p.steps t (t.ensureDirectory cwd p).1 := by
  unfold ensureDirectory
  split
  · exact .refl _ _ _
  · exact .refl _ _ _
  · exact (makeWith_names_spec t cwd p).1

/-- A path that is ensured names a directory. -/
theorem ensureDirectory_find (hempty : p.isEmpty = false)
    (h : t.ensureDirectory cwd p = (t', .ok ())) :
    ∃ loc, t'.find cwd p = .ok (loc, .directory) ∧ t'.walk (start cwd p) p.names = .ok loc := by
  unfold ensureDirectory at h
  split at h
  · rename_i hcheck
    -- only an empty path is refused as one that does not exist
    simp only [checkPath, hempty, Bool.false_eq_true, if_false] at hcheck
    split at hcheck
    · cases hcheck
    · split at hcheck <;> cases hcheck
  · cases h
  · rename_i hcheck
    obtain ⟨-, hleads⟩ := makeWith_names_spec t cwd p
    rw [h] at hleads
    obtain ⟨loc, hwalk, hdir⟩ := hleads rfl
    exact ⟨loc, find_eq_ok_of_walk hcheck hwalk hdir, hwalk⟩

/-- A normal name joined to a path leads one step below where the path leads. -/
theorem eq_of_locate_join {name : String} {below : Location} (hempty : p.isEmpty = false)
    (hname : Path.IsNormalName (Utf8.encode name))
    (hwalk : t.walk (start cwd p) p.names = .ok loc)
    (hloc : t.locate cwd (p.join name) = .ok below) : below = loc ++ [Utf8.encode name] := by
  have hbelow := ((locate_eq_ok (Path.endsInSeparator_join hempty hname)).1 hloc).2
  rw [Path.names_join hname, start, Path.isAbsolute_join hname, ← start] at hbelow
  obtain ⟨next, hnext, hlast⟩ := walk_append_eq_ok.1 hbelow
  obtain rfl : loc = next := Except.ok.inj (hwalk.symm.trans hnext)
  obtain ⟨-, last, hstep, hrest⟩ := walk_cons_eq_ok.1 hlast
  obtain rfl : last = below := Except.ok.inj hrest
  exact step_eq_ok_of_normal hname.ne_currentName hname.ne_parentName hstep

/-- Two children of one directory lead to the same place only if they are the same path. -/
theorem eq_of_locate_eq {dir q : Path} {below : Location} (hempty : dir.isEmpty = false)
    (hwalk : t.walk (start cwd dir) dir.names = .ok loc) (hp : p.IsChildOf dir)
    (hq : q.IsChildOf dir) (hbelow : t.locate cwd p = .ok below)
    (hbelow' : t.locate cwd q = .ok below) : p = q := by
  obtain ⟨name, rfl, hname⟩ := hp
  obtain ⟨name', rfl, hname'⟩ := hq
  have heq : loc ++ [Utf8.encode name] = loc ++ [Utf8.encode name'] :=
    (eq_of_locate_join hempty hname hwalk hbelow).symm.trans
      (eq_of_locate_join hempty hname' hwalk hbelow')
  exact Path.join_congr (by simpa using heq) dir

end Prelaunch.FileTree
