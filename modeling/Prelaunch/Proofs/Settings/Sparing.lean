import Prelaunch.Proofs.Settings.Plain

/-!
Entries that spare a setting. Once a path to one key of a section has given it a value, the value
stays for as long as all other entries lead to another key or another section. Nothing has to be
known of what was there before.
-/

namespace Prelaunch.Settings

variable {group key : String} {root t : Tree} {e : String × Tree}

/-- The section is there, and the key has this value in it. -/
def Holds (group key : String) (t root : Tree) : Prop :=
  (root.lookup? group).bind (·.lookup? key) = some t

/-- The path leads to another section, or to another key. -/
def KeyPath.Spares (group key : String) (path : KeyPath) : Prop :=
  path.first ≠ group ∨ ∃ other rest, path.more = .key other :: rest ∧ other ≠ key

/-- The entry gives a single value to the key. -/
def Sets (group key : String) (t : Tree) (e : String × Tree) : Prop :=
  KeyPath.parse e.1 = ⟨group, [.key key]⟩ ∧ e.2 = t ∧ ∃ origin s, t = .scalar origin s

theorem Sets.holds (h : Sets group key t e) (root : Tree) : Holds group key t (addEntry root e) := by
  obtain ⟨hpath, rfl, origin, s, hscalar⟩ := h
  unfold Holds addEntry Tree.changeAt
  rw [hpath, hscalar, Tree.lookup?_changeKey, if_pos rfl, Option.bind_some]
  show (Tree.changeKey _ key _).lookup? key = _
  rw [Tree.lookup?_changeKey, if_pos rfl]
  rfl

theorem Holds.addEntry (h : Holds group key t root)
    (he : (KeyPath.parse e.1).Spares group key) : Holds group key t (addEntry root e) := by
  unfold Holds at h ⊢
  unfold Settings.addEntry Tree.changeAt
  rw [Tree.lookup?_changeKey]
  rcases he with haway | ⟨other, rest, hmore, hother⟩
  · rwa [if_neg (Ne.symm haway)]
  · by_cases hgroup : group = (KeyPath.parse e.1).first
    · obtain ⟨entries, hentries, hkey⟩ := Option.bind_eq_some_iff.1 h
      rw [if_pos hgroup, ← hgroup, hmore, hentries, Option.bind_some]
      show (Tree.changeKey _ other entries).lookup? key = _
      rw [Tree.lookup?_changeKey, if_neg (Ne.symm hother), hkey]
    · rwa [if_neg hgroup]

/-- One entry sets the key and all others do the same or spare it, wherever it stands among them. -/
theorem holds_foldl {source : Source} (root : Tree) (hsets : ∃ e ∈ source, Sets group key t e)
    (hall : ∀ e ∈ source, Sets group key t e ∨ (KeyPath.parse e.1).Spares group key) :
    Holds group key t (source.foldl addEntry root) := by
  obtain ⟨e, hmem, he⟩ := hsets
  obtain ⟨before, after, rfl⟩ := List.append_of_mem hmem
  rw [List.foldl_append, List.foldl_cons]
  have hafter := (List.forall_mem_cons.1 (List.forall_mem_append.1 hall).2).2
  generalize hstart : addEntry (before.foldl addEntry root) e = start
  have hholds : Holds group key t start := hstart ▸ he.holds _
  clear hstart hall hmem he
  induction after generalizing start with
  | nil => exact hholds
  | cons e after ih =>
      obtain ⟨he, hafter⟩ := List.forall_mem_cons.1 hafter
      exact ih hafter _ (he.elim (fun hsets => hsets.holds start) hholds.addEntry)

/-- A section that holds something is a table. -/
theorem Holds.isTable (h : Holds group key t root) (found : Tree)
    (hsection : root.lookup? group = some found) : found.IsTable := by
  obtain ⟨below, hbelow, hkey⟩ := Option.bind_eq_some_iff.1 h
  obtain rfl := Option.some.inj (hbelow.symm.trans hsection)
  cases below with
  | table entries => exact ⟨entries, rfl⟩
  | scalar | array => cases hkey

namespace Override

variable {env : Environment} {v : String}

/-- One variable spells the key of the section and has the text, and no other variable leads to the
key or takes the place of its section. -/
def SetsAlone (env : Environment) (group key v : String) : Prop :=
  ∃ name, env.get? name = some v ∧ Text.lowercase name = nameOf group key ∧
    ∀ other text path, env.get? other = some text → path? other = some path → other ≠ name →
      (KeyPath.parse path).Spares group key

theorem not_spares_self : ¬(KeyPath.mk group [.key key]).Spares group key := by
  rintro (haway | ⟨other, rest, hmore, hother⟩)
  · exact haway rfl
  · cases hmore
    exact hother rfl

theorem SetsAlone.holds (h : SetsAlone env group key v) (hgroup : group ∈ groups)
    (hkey : IsPlainKey key) (o : HashOrder) (file : Source) :
    Holds group key (.scalar (some .environment) (scalar v)) (join [file, source o env]) := by
  obtain ⟨name, hget, hname, hothers⟩ := h
  obtain ⟨path, hpath, hparse⟩ := parse_of_lowercase_eq hgroup hkey hname
  have hunique (other text : String) (hget' : env.get? other = some text)
      (hpath' : path? other = some path) : other = name := by
    by_contra hother
    have hspares := hothers other text path hget' hpath' hother
    rw [hparse] at hspares
    exact not_spares_self hspares
  have hjoin : join [file, source o env] =
      (source o env).foldl addEntry (file.foldl addEntry (.table [])) := by
    simp [join]
  rw [hjoin]
  refine holds_foldl _ ⟨_, mem_source hget hpath hunique, hparse, rfl, _, _, rfl⟩ ?_
  intro e he
  obtain ⟨other, text, path', hget', hpath', rfl⟩ := exists_of_mem_source he
  by_cases hother : other = name
  · obtain rfl := hother
    obtain rfl := Option.some.inj (hget.symm.trans hget')
    obtain rfl := Option.some.inj (hpath.symm.trans hpath')
    exact .inl ⟨hparse, rfl, _, _, rfl⟩
  · exact .inr (hothers other text path' hget' hpath' hother)

end Override

end Prelaunch.Settings
