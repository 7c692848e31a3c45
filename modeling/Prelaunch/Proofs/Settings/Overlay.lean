import Prelaunch.Proofs.Settings.KeyPath
import Prelaunch.Settings.Reading

/-!
What stands in a section once several sources have been laid over each other. Of all the entries that
set a key the last one counts, as far as a reading of single settings can tell: two tables are both
no single setting, whatever they hold.
-/

namespace Prelaunch.Settings

/-- What a reading of single settings sees of a tree. -/
def Tree.seen (t : Tree) : Found × Option Origin := (.ofTree t, t.origin?)

namespace Tree

variable {key other : String}

/-! One key changed. -/

theorem lookup_cons_eq_ite (key : String) (t : Tree) (rest : List (String × Tree)) (other : String) :
    List.lookup other ((key, t) :: rest) = if other = key then some t else rest.lookup other := by
  rw [List.lookup_cons]
  by_cases h : other = key
  · rw [if_pos h, beq_iff_eq.2 h]
  · rw [if_neg h, beq_false_of_ne h]

theorem lookup_changeEntry (f : Tree → Tree) (key other : String) (entries : List (String × Tree)) :
    (changeEntry f key entries).lookup other =
      if other = key then some (f ((entries.lookup key).getD nothing))
      else entries.lookup other := by
  induction entries with
  | nil => exact lookup_cons_eq_ite key _ [] other
  | cons e rest ih =>
      obtain ⟨first, t⟩ := e
      unfold changeEntry
      by_cases hfirst : first = key
      · subst hfirst
        rw [if_pos (beq_self_eq_true first)]
        simp only [lookup_cons_eq_ite, if_true, Option.getD_some]
        by_cases h : other = first
        · rw [if_pos h, if_pos h]
        · rw [if_neg h, if_neg h, if_neg h]
      · rw [if_neg (by simpa using hfirst)]
        simp only [lookup_cons_eq_ite, ih, if_neg (Ne.symm hfirst)]
        by_cases h : other = first
        · rw [if_pos h, if_pos h, if_neg (h ▸ hfirst)]
        · rw [if_neg h, if_neg h]

theorem lookup_entriesOf (t : Tree) (key : String) : t.entriesOf.lookup key = t.lookup? key := by
  cases t <;> rfl

theorem lookup?_changeKey (f : Tree → Tree) (key : String) (t : Tree) (other : String) :
    (changeKey f key t).lookup? other =
      if other = key then some (f ((t.lookup? key).getD nothing)) else t.lookup? other := by
  show (changeEntry f key t.entriesOf).lookup other = _
  rw [lookup_changeEntry, lookup_entriesOf, lookup_entriesOf]

/-! A tree over another. -/

def IsTable (t : Tree) : Prop := ∃ entries, t = .table entries

instance : (t : Tree) → Decidable t.IsTable
  | .table entries => .isTrue ⟨entries, rfl⟩
  | .scalar _ _ => .isFalse fun ⟨_, h⟩ => by cases h
  | .array _ _ => .isFalse fun ⟨_, h⟩ => by cases h

theorem isTable_changeKey (f : Tree → Tree) (key : String) (t : Tree) : IsTable (changeKey f key t) :=
  ⟨_, rfl⟩

theorem isTable_laidOverEntries (entries : List (String × Tree)) {below : Tree}
    (h : IsTable below) : IsTable (laidOverEntries entries below) := by
  induction entries generalizing below with
  | nil => exact h
  | cons e rest ih => exact ih (isTable_changeKey _ _ _)

/-- The tree above decides what is seen. -/
theorem seen_laidOver (t below : Tree) : (t.laidOver below).seen = t.seen := by
  cases t with
  | scalar origin s => rfl
  | array origin items => rfl
  | table entries =>
      obtain ⟨joined, hjoined⟩ := isTable_laidOverEntries entries ⟨below.entriesOf, rfl⟩
      show (laidOverEntries entries (.table below.entriesOf)).seen = _
      rw [hjoined]
      rfl

/-- The last entry of a key. -/
def last? (entries : List (String × Tree)) (key : String) : Option Tree := entries.reverse.lookup key

theorem last?_append (entries more : List (String × Tree)) (key : String) :
    last? (entries ++ more) key = (last? more key).or (last? entries key) := by
  unfold last?
  rw [List.reverse_append, List.lookup_append]

theorem last?_singleton (key other : String) (t : Tree) :
    last? [(key, t)] other = if other = key then some t else none := by
  exact lookup_cons_eq_ite key t [] other

/-- The last entry is any of a key, if all of them give one value. -/
theorem last?_eq_of_mem_iff {entries : List (String × Tree)} {key : String} {o : Option Tree}
    (h : ∀ t, (key, t) ∈ entries ↔ o = some t) : last? entries key = o := by
  unfold last?
  cases hlookup : entries.reverse.lookup key with
  | none =>
      rw [eq_comm, Option.eq_none_iff_forall_ne_some]
      intro t ht
      have hne := List.lookup_eq_none_iff.1 hlookup (key, t) (List.mem_reverse.2 ((h t).2 ht))
      exact bne_iff_ne.1 hne rfl
  | some t =>
      obtain ⟨before, after, hsplit, -⟩ := List.lookup_eq_some_iff.1 hlookup
      have hmem : (key, t) ∈ entries.reverse := by
        rw [hsplit]
        exact List.mem_append_right before List.mem_cons_self
      exact ((h t).1 (List.mem_reverse.1 hmem)).symm

theorem seen_lookup?_changeKey (t : Tree) (key : String) (below : Tree) (other : String) :
    ((changeKey t.laidOver key below).lookup? other).map seen =
      ((last? [(key, t)] other).map seen).or ((below.lookup? other).map seen) := by
  rw [lookup?_changeKey, last?_singleton]
  by_cases h : other = key
  · rw [if_pos h, if_pos h]
    exact congrArg some (seen_laidOver t _)
  · rw [if_neg h, if_neg h]
    rfl

/-- Where a table is laid over another, its last entry of a key is seen there, or else what was there
before. -/
theorem seen_lookup?_laidOverEntries (entries : List (String × Tree)) (below : Tree) (key : String) :
    ((laidOverEntries entries below).lookup? key).map seen =
      ((last? entries key).map seen).or ((below.lookup? key).map seen) := by
  induction entries generalizing below with
  | nil => rfl
  | cons e rest ih =>
      obtain ⟨first, t⟩ := e
      show ((laidOverEntries rest (changeKey t.laidOver first below)).lookup? key).map seen = _
      have hsplit : last? ((first, t) :: rest) key = (last? rest key).or (last? [(first, t)] key) :=
        last?_append [(first, t)] rest key
      rw [ih, seen_lookup?_changeKey, hsplit]
      cases last? rest key <;> rfl

end Tree

/-! Sections of joined sources. -/

/-- What an entry of a source gives to a section: the entries of a table that is the section, or one
setting by the path to it. -/
def assigned (group : String) (e : String × Tree) : List (String × Tree) :=
  match KeyPath.parse e.1 with
  | ⟨first, []⟩ => if first = group then e.2.entriesOf else []
  | ⟨first, [.key name]⟩ => if first = group then [(name, e.2)] else []
  | _ => []

theorem assigned_of_ne {group : String} {e : String × Tree}
    (h : (KeyPath.parse e.1).first ≠ group) : assigned group e = [] := by
  unfold assigned
  split
  · rename_i first hpath
    rw [hpath] at h
    exact if_neg h
  · rename_i first name hpath
    rw [hpath] at h
    exact if_neg h
  · rfl

/-- The entry leaves a section alone, or is a table in its place, or sets one key in it. -/
def IsRegular (group : String) (e : String × Tree) : Prop :=
  (KeyPath.parse e.1).first ≠ group ∨ KeyPath.parse e.1 = ⟨group, []⟩ ∧ e.2.IsTable ∨
    ∃ name, KeyPath.parse e.1 = ⟨group, [.key name]⟩

/-- A section is missing or a table, and what is seen of its keys are the last settings of a list. -/
structure Represents (group : String) (root : Tree) (given : List (String × Tree)) : Prop where
  isTable : ∀ t, root.lookup? group = some t → t.IsTable
  seen : ∀ key, ((root.lookup? group).bind (·.lookup? key)).map Tree.seen =
    (Tree.last? given key).map Tree.seen

/-- A change of a section adds settings to it: the outcome is a table, in which they come last. -/
structure Adds (change : Tree → Tree) (more : List (String × Tree)) : Prop where
  isTable : ∀ below, (change below).IsTable
  seen : ∀ below key, ((change below).lookup? key).map Tree.seen =
    ((Tree.last? more key).map Tree.seen).or ((below.lookup? key).map Tree.seen)

theorem adds_table (entries : List (String × Tree)) : Adds (Tree.table entries).laidOver entries where
  isTable below := Tree.isTable_laidOverEntries entries ⟨below.entriesOf, rfl⟩
  seen below key := by
    have hbelow : (Tree.table below.entriesOf).lookup? key = below.lookup? key :=
      Tree.lookup_entriesOf below key
    show ((Tree.laidOverEntries entries (.table below.entriesOf)).lookup? key).map Tree.seen = _
    rw [Tree.seen_lookup?_laidOverEntries, hbelow]

theorem adds_setting (name : String) (t : Tree) : Adds (Tree.changeKey t.laidOver name) [(name, t)] where
  isTable := Tree.isTable_changeKey t.laidOver name
  seen := Tree.seen_lookup?_changeKey t name

namespace Represents

variable {group : String} {root : Tree} {given : List (String × Tree)} {e : String × Tree}

theorem empty (group : String) : Represents group (.table []) [] where
  isTable := by
    rintro t ⟨⟩
  seen key := rfl

/-- The settings that a change adds to a section come last. -/
theorem changeKey (h : Represents group root given) {change : Tree → Tree}
    {more : List (String × Tree)} (hchange : Adds change more) :
    Represents group (Tree.changeKey change group root) (given ++ more) := by
  have hlookup : (Tree.changeKey change group root).lookup? group =
      some (change ((root.lookup? group).getD .nothing)) := by
    rw [Tree.lookup?_changeKey, if_pos rfl]
  have hbelow (key : String) : ((root.lookup? group).getD .nothing).lookup? key =
      (root.lookup? group).bind (·.lookup? key) := by
    cases root.lookup? group <;> rfl
  refine ⟨fun t ht => ?_, fun key => ?_⟩
  · rw [hlookup] at ht
    rw [← Option.some.inj ht]
    exact hchange.isTable _
  · rw [hlookup, Option.bind_some, hchange.seen, hbelow, h.seen, Tree.last?_append, Option.map_or]

/-- One more entry: its settings come last. -/
theorem addEntry (h : Represents group root given) (he : IsRegular group e) :
    Represents group (addEntry root e) (given ++ assigned group e) := by
  obtain ⟨path, t⟩ := e
  unfold Settings.addEntry Tree.changeAt
  obtain haway | ⟨hsection, entries, htable⟩ | ⟨name, hkey⟩ := he
  · have hlookup (f : Tree → Tree) :
        (Tree.changeKey f (KeyPath.parse path).first root).lookup? group = root.lookup? group := by
      rw [Tree.lookup?_changeKey, if_neg (Ne.symm haway)]
    rw [assigned_of_ne haway, List.append_nil]
    exact ⟨hlookup _ ▸ h.isTable, hlookup _ ▸ h.seen⟩
  · obtain rfl : t = .table entries := htable
    have hgiven : assigned group (path, .table entries) = entries := by
      unfold assigned
      rw [hsection]
      exact if_pos rfl
    rw [hgiven, hsection]
    exact h.changeKey (adds_table entries)
  · have hgiven : assigned group (path, t) = [(name, t)] := by
      unfold assigned
      rw [hkey]
      exact if_pos rfl
    rw [hgiven, hkey]
    exact h.changeKey (adds_setting name t)

/-- All entries of a source, one after the other. -/
theorem foldl_addEntry (h : Represents group root given) {source : Source}
    (hsource : ∀ e ∈ source, IsRegular group e) :
    Represents group (source.foldl Settings.addEntry root)
      (given ++ source.flatMap (assigned group)) := by
  induction source generalizing root given with
  | nil => simpa using h
  | cons e rest ih =>
      obtain ⟨he, hrest⟩ := List.forall_mem_cons.1 hsource
      have hnext := ih (h.addEntry he) hrest
      rwa [List.append_assoc] at hnext

/-- Of two sources the later one counts. -/
theorem join {file overrides : Source} (hfile : ∀ e ∈ file, IsRegular group e)
    (hoverrides : ∀ e ∈ overrides, IsRegular group e) :
    Represents group (Settings.join [file, overrides])
      (file.flatMap (assigned group) ++ overrides.flatMap (assigned group)) := by
  have hall : ∀ e ∈ file ++ overrides, IsRegular group e :=
    List.forall_mem_append.2 ⟨hfile, hoverrides⟩
  have hrun := (empty group).foldl_addEntry hall
  rw [List.flatMap_append, List.nil_append] at hrun
  simpa [Settings.join] using hrun

end Represents

end Prelaunch.Settings
