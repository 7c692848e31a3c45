import Mathlib.Data.List.Basic
import Prelaunch.Launch

/-!
The search path that a program is handed. An older path is taken apart at its separators and put
together again after the directory, which keeps it byte for byte, and only a separator in the name
of the directory stands in the way.
-/

namespace Prelaunch.Launch

variable {s : BootstrapSettings} {args : List Bytes} {env : Environment} {dir older : Bytes}

theorem notMem_of_mem_splitOn {x : UInt8} {xs entry : Bytes} (h : entry ∈ xs.splitOn x) :
    x ∉ entry := by
  induction xs generalizing entry with
  | nil =>
      obtain rfl : entry = [] := by simpa using h
      exact List.not_mem_nil
  | cons b rest ih =>
      rw [List.splitOn_cons_eq_if_modifyHead] at h
      split at h
      · rcases List.mem_cons.1 h with rfl | h
        · exact List.not_mem_nil
        · exact ih h
      · rename_i hb
        -- the byte goes in front of the first entry of the rest
        cases hsplit : rest.splitOn x with
        | nil => exact absurd hsplit (List.splitOn_ne_nil x rest)
        | cons first others =>
            rw [hsplit, List.modifyHead_cons] at h
            have hfirst : x ∉ first := ih (hsplit ▸ List.mem_cons_self)
            rcases List.mem_cons.1 h with rfl | h
            · intro hx
              rcases List.mem_cons.1 hx with rfl | hx
              · exact hb (beq_self_eq_true x)
              · exact hfirst hx
            · exact ih (hsplit ▸ List.mem_cons_of_mem first h)

/-- What a search path comes to, an older one being kept as it is. -/
def searchPath (dir : Bytes) (older : Option Bytes) : Bytes :=
  match older.filter (!·.isEmpty) with
  | none => dir
  | some entries => dir ++ listSeparator :: entries

/-- The older path cannot fail to be an entry of the new one, since it was split at what an entry
must not have. -/
theorem prepended?_eq (dir : Bytes) (older : Option Bytes) :
    prepended? dir older =
      if dir.contains listSeparator then none else some (searchPath dir older) := by
  have hentries (xs : Bytes) :
      (xs.splitOn listSeparator).any (·.contains listSeparator) = false := by
    rw [List.any_eq_false]
    intro entry hentry
    simpa using notMem_of_mem_splitOn hentry
  have hjoin (xs : Bytes) : [listSeparator].intercalate (dir :: xs.splitOn listSeparator) =
      dir ++ listSeparator :: xs := by
    rw [List.intercalate_cons_of_ne_nil (List.splitOn_ne_nil _ xs), List.intercalate_splitOn]
    simp
  unfold prepended? joined? searchPath
  cases older.filter (!·.isEmpty) with
  | none => simp
  | some xs =>
      change (if (dir :: xs.splitOn listSeparator).any (·.contains listSeparator) = true then none
        else some ([listSeparator].intercalate (dir :: xs.splitOn listSeparator))) = _
      rw [List.any_cons, hentries, hjoin, Bool.or_false]

theorem make_eq (s : BootstrapSettings) (args : List Bytes) (env : Environment) :
    make s args env =
      if s.configDir.bytes.contains listSeparator then
        .error (.modulePath s.modulePathVar s.configDir)
      else .ok ⟨s.entrypoint, args, s.modulePathVar,
        searchPath s.configDir.bytes (env.getRaw? s.modulePathVar)⟩ := by
  unfold make
  rw [prepended?_eq]
  cases s.configDir.bytes.contains listSeparator <;> rfl

/-- The path consists of the directory and an older path, if there is one with anything in it. -/
inductive LeadsWith (dir : Bytes) : Option Bytes → Bytes → Prop where
  | unset : LeadsWith dir none dir
  | empty : LeadsWith dir (some []) dir
  | older {older : Bytes} (h : older ≠ []) : LeadsWith dir (some older) (dir ++ 0x3A :: older)

theorem leadsWith_iff {older : Option Bytes} {path : Bytes} :
    LeadsWith dir older path ↔ path = searchPath dir older := by
  constructor
  · rintro (_ | _ | hne)
    · rfl
    · rfl
    · rw [searchPath, Option.filter_some_pos (by simpa using hne)]
      rfl
  · rintro rfl
    match older with
    | none => exact .unset
    | some [] => exact .empty
    | some (b :: rest) => exact .older (List.cons_ne_nil b rest)

/-- The entries of a search path that may not be there. -/
def entriesOf : Option Bytes → List Bytes
  | none => []
  | some [] => []
  | some older => older.splitOn 0x3A

theorem LeadsWith.splitOn {older : Option Bytes} {path : Bytes} (h : LeadsWith dir older path)
    (hdir : 0x3A ∉ dir) : path.splitOn 0x3A = dir :: entriesOf older := by
  cases h with
  | unset => exact List.splitOn_eq_singleton hdir
  | empty => exact List.splitOn_eq_singleton hdir
  | @older older hne =>
      obtain ⟨b, rest, rfl⟩ := List.exists_cons_of_ne_nil hne
      exact List.splitOn_append_cons_self_of_not_mem hdir (b :: rest)

/-- A launch can be made unless the name of the working directory has a separator in it, and then
its search path is the directory, followed by the bytes of the older path if that is not empty, so
that the directory and the entries of the older path are the entries of the new one. -/
theorem search_path_is_kept (s : BootstrapSettings) (args : List Bytes) (env : Environment) :
    (∀ e, make s args env = .error e ↔
      0x3A ∈ s.configDir.bytes ∧ e = .modulePath s.modulePathVar s.configDir) ∧
    (∀ l, make s args env = .ok l ↔ 0x3A ∉ s.configDir.bytes ∧ ∃ path,
      LeadsWith s.configDir.bytes (env.getRaw? s.modulePathVar) path ∧
        l = ⟨s.entrypoint, args, s.modulePathVar, path⟩) ∧
    ∀ l, make s args env = .ok l →
      l.modulePath.splitOn 0x3A = s.configDir.bytes :: entriesOf (env.getRaw? s.modulePathVar) := by
  have hok (l : Launch) : make s args env = .ok l ↔ 0x3A ∉ s.configDir.bytes ∧ ∃ path,
      LeadsWith s.configDir.bytes (env.getRaw? s.modulePathVar) path ∧
        l = ⟨s.entrypoint, args, s.modulePathVar, path⟩ := by
    rw [make_eq]
    simp only [leadsWith_iff, exists_eq_left]
    by_cases hdir : 0x3A ∈ s.configDir.bytes
    · simp [listSeparator, hdir]
    · simp [listSeparator, hdir, eq_comm]
  refine ⟨fun e => ?_, hok, fun l hl => ?_⟩
  · rw [make_eq]
    by_cases hdir : 0x3A ∈ s.configDir.bytes
    · simp [listSeparator, hdir, eq_comm]
    · simp [listSeparator, hdir]
  · obtain ⟨hdir, path, hpath, rfl⟩ := (hok l).1 hl
    exact hpath.splitOn hdir

/-- Empty entries and bytes that are no text stay where they are. -/
theorem search_path_is_kept_sample :
    make { configDir := .ofText "/d" } []
        (.ofPairs [(Utf8.encode "PYTHONPATH", [0x3A, 0xFF, 0x3A, 0x3A, 0x61, 0x3A])]) =
      .ok ⟨"litellm", [], "PYTHONPATH", [0x2F, 0x64, 0x3A, 0x3A, 0xFF, 0x3A, 0x3A, 0x61, 0x3A]⟩ ∧
    [0x2F, 0x64, 0x3A, 0x3A, 0xFF, 0x3A, 0x3A, 0x61, 0x3A].splitOn (0x3A : UInt8) =
      [0x2F, 0x64] :: [[], [0xFF], [], [0x61], []] := by
  have hmake : make { configDir := .ofText "/d" } []
      (.ofPairs [(Utf8.encode "PYTHONPATH", [0x3A, 0xFF, 0x3A, 0x3A, 0x61, 0x3A])]) =
        .ok ⟨"litellm", [], "PYTHONPATH",
          [0x2F, 0x64, 0x3A, 0x3A, 0xFF, 0x3A, 0x3A, 0x61, 0x3A]⟩ := by
    decide +kernel
  refine ⟨hmake, ?_⟩
  rw [(search_path_is_kept _ _ _).2.2 _ hmake]
  decide +kernel

end Prelaunch.Launch
