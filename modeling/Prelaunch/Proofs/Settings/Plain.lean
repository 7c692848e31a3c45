import Prelaunch.Proofs.Arrangement
import Prelaunch.Proofs.Environment
import Prelaunch.Proofs.Settings.Group

/-!
Plain sources: a file whose keys are identifiers and whose sections are tables, and overrides of which
those of a section name one key each. What such sources give to a section can be read off without a
look at paths, and does not depend on the order of hash tables.
-/

namespace Prelaunch.Settings

/-- The sections that are read. -/
def groups : List String := ["bootstrap", "http", "b2"]

theorem isIdentifier_of_mem_groups {group : String} (h : group ∈ groups) : IsIdentifier group := by
  revert group
  decide +kernel

theorem underscore_notMem_of_mem_groups {group : String} (h : group ∈ groups) :
    '_' ∉ group.toList := by
  revert group
  decide

/-! Files. -/

namespace Source

structure IsPlain (file : Source) : Prop where
  keys : ∀ e ∈ file, IsIdentifier e.1
  sections : ∀ e ∈ file, e.1 ∈ groups → e.2.IsTable

instance (file : Source) : Decidable file.IsPlain :=
  decidable_of_iff ((∀ e ∈ file, IsIdentifier e.1) ∧ ∀ e ∈ file, e.1 ∈ groups → e.2.IsTable)
    ⟨fun h => ⟨h.1, h.2⟩, fun h => ⟨h.keys, h.sections⟩⟩

/-- What a file gives for a key of a section. Of several entries the last one counts. -/
def setting? (file : Source) (group key : String) : Option Tree :=
  Tree.last? ((file.filter (·.1 == group)).flatMap (·.2.entriesOf)) key

variable {file : Source} {group : String}

theorem IsPlain.isRegular (h : IsPlain file) (hgroup : group ∈ groups) :
    ∀ e ∈ file, IsRegular group e := by
  intro e he
  have hparse := KeyPath.parse_of_isIdentifier (h.keys e he)
  unfold IsRegular
  rw [hparse]
  by_cases heq : e.1 = group
  · exact .inr (.inl ⟨by rw [heq], h.sections e he (heq ▸ hgroup)⟩)
  · exact .inl heq

theorem IsPlain.flatMap_assigned (h : IsPlain file) (group : String) :
    file.flatMap (assigned group) = (file.filter (·.1 == group)).flatMap (·.2.entriesOf) := by
  obtain ⟨hkeys, -⟩ := h
  induction file with
  | nil => rfl
  | cons e rest ih =>
      obtain ⟨he, hrest⟩ := List.forall_mem_cons.1 hkeys
      have hassigned : assigned group e = if e.1 = group then e.2.entriesOf else [] := by
        unfold assigned
        rw [KeyPath.parse_of_isIdentifier he]
      rw [List.flatMap_cons, ih hrest, hassigned, List.filter_cons]
      by_cases heq : e.1 = group
      · rw [if_pos heq, if_pos (beq_iff_eq.2 heq), List.flatMap_cons]
      · rw [if_neg heq, if_neg (by simpa using heq), List.nil_append]

/-- A hash table does not tear the entries of one section apart. -/
theorem setting?_entries (o : HashOrder) (table : HashTable) (file : Source) (group key : String) :
    setting? (o.entries table file) group key = file.setting? group key := by
  unfold setting?
  rw [HashOrder.filter_entries]

theorem IsPlain.entries (h : IsPlain file) (o : HashOrder) (table : HashTable) :
    IsPlain (o.entries table file) where
  keys e he := h.keys e (HashOrder.mem_entries.1 he)
  sections e he := h.sections e (HashOrder.mem_entries.1 he)

end Source

/-! Overrides. -/

namespace Override

/-- A key in the name of a variable, where two underscores end it. -/
structure IsPlainKey (key : String) : Prop where
  isIdentifier : IsIdentifier key
  not_infix : ¬['_', '_'] <:+: key.toList

/-- Each variable that overrides something in a section names one key of it, and no two name the
same. -/
structure ArePlain (env : Environment) : Prop where
  form : ∀ name text path, env.get? name = some text → path? name = some path →
    (KeyPath.parse path).first ∈ groups →
    ∃ group ∈ groups, ∃ key, IsPlainKey key ∧ Text.lowercase name = nameOf group key
  unique : ∀ group ∈ groups, ∀ key, IsPlainKey key → ∀ name name' text text',
    env.get? name = some text → env.get? name' = some text' →
    Text.lowercase name = nameOf group key → Text.lowercase name' = nameOf group key → name = name'

/-- What the variables give for a key of a section. -/
def setting? (env : Environment) (group key : String) : Option Tree :=
  (env.toList.find? fun e => Text.lowercase e.1 == nameOf group key).map fun e =>
    .scalar (some .environment) (scalar e.2)

/-! Entries of which each takes the place of those with its key. -/

theorem mem_of_mem_foldl_setEntry {e : String × Tree} {es base : Source}
    (he : e ∈ es.foldl setEntry base) : e ∈ base ∨ e ∈ es := by
  induction es generalizing base with
  | nil => exact .inl he
  | cons first rest ih =>
      rcases ih he with hset | hrest
      · rcases List.mem_append.1 hset with hbase | hfirst
        · exact .inl (List.mem_filter.1 hbase).1
        · exact .inr (List.mem_singleton.1 hfirst ▸ List.mem_cons_self)
      · exact .inr (List.mem_cons_of_mem first hrest)

/-- An entry stays if there is no other one with its key. -/
theorem mem_foldl_setEntry {e : String × Tree} {es base : Source} (he : e ∈ base ∨ e ∈ es)
    (hunique : ∀ e' ∈ es, e'.1 = e.1 → e' = e) : e ∈ es.foldl setEntry base := by
  induction es generalizing base with
  | nil => simpa using he
  | cons first rest ih =>
      obtain ⟨hfirst, hrest⟩ := List.forall_mem_cons.1 hunique
      refine ih ?_ hrest
      by_cases heq : first = e
      · exact .inl (List.mem_append_right _ (List.mem_singleton.2 heq.symm))
      · have hkey : e.1 ≠ first.1 := fun hkey => heq (hfirst hkey.symm)
        rcases he with hbase | hmem
        · exact .inl (List.mem_append_left _ (List.mem_filter.2 ⟨hbase, bne_iff_ne.2 hkey⟩))
        · exact .inr ((List.mem_cons.1 hmem).resolve_left (Ne.symm heq))

variable {o : HashOrder} {env : Environment} {group key name text path : String}

theorem mem_naming {v : String × String} :
    v ∈ naming env ↔ env.get? v.1 = some v.2 ∧ (path? v.1).isSome = true := by
  rw [naming, List.mem_filter, Environment.mem_toList]

theorem mem_filterMap_given? {e : String × Tree} :
    e ∈ (o.entries .environment (naming env)).filterMap given? ↔
      ∃ name text path, env.get? name = some text ∧ path? name = some path ∧
        e = (path, .scalar (some .environment) (scalar text)) := by
  rw [List.mem_filterMap]
  constructor
  · rintro ⟨⟨name, text⟩, hmem, he⟩
    obtain ⟨path, hpath, rfl⟩ := Option.map_eq_some_iff.1 he
    exact ⟨name, text, path, (mem_naming.1 (HashOrder.mem_entries.1 hmem)).1, hpath, rfl⟩
  · rintro ⟨name, text, path, hget, hpath, rfl⟩
    refine ⟨(name, text), HashOrder.mem_entries.2 (mem_naming.2 ⟨hget, ?_⟩), ?_⟩
    · rw [hpath]
      rfl
    · rw [given?, hpath]
      rfl

theorem exists_of_mem_source {e : String × Tree} (he : e ∈ source o env) :
    ∃ name text path, env.get? name = some text ∧ path? name = some path ∧
      e = (path, .scalar (some .environment) (scalar text)) := by
  rcases mem_of_mem_foldl_setEntry (HashOrder.mem_entries.1 he) with hnone | hmem
  · cases hnone
  · exact mem_filterMap_given?.1 hmem

/-- A variable gives its setting if no other one spells the same path. -/
theorem mem_source (hget : env.get? name = some text) (hpath : path? name = some path)
    (hunique : ∀ other text', env.get? other = some text' → path? other = some path →
      other = name) : (path, .scalar (some .environment) (scalar text)) ∈ source o env := by
  refine HashOrder.mem_entries.2 (mem_foldl_setEntry
    (.inr (mem_filterMap_given?.2 ⟨name, text, path, hget, hpath, rfl⟩)) ?_)
  intro e he hkey
  obtain ⟨other, text', path', hget', hpath', rfl⟩ := mem_filterMap_given?.1 he
  obtain rfl : path' = path := hkey
  obtain rfl := hunique other text' hget' hpath'
  obtain rfl : text = text' := Option.some.inj (hget.symm.trans hget')
  rfl

/-! What plain overrides give. -/

theorem parse_of_lowercase_eq (hgroup : group ∈ groups) (hkey : IsPlainKey key)
    (hname : Text.lowercase name = nameOf group key) :
    ∃ path, path? name = some path ∧ KeyPath.parse path = ⟨group, [.key key]⟩ :=
  ⟨group ++ "." ++ key,
    path?_of_lowercase_eq (underscore_notMem_of_mem_groups hgroup) hkey.not_infix hname,
    KeyPath.parse_dotted (isIdentifier_of_mem_groups hgroup) hkey.isIdentifier⟩

/-- The path of a variable that touches a section is the plain one. -/
theorem ArePlain.parse_eq (h : ArePlain env) (hget : env.get? name = some text)
    (hpath : path? name = some path) (htouches : (KeyPath.parse path).first ∈ groups) :
    ∃ group ∈ groups, ∃ key, IsPlainKey key ∧ Text.lowercase name = nameOf group key ∧
      KeyPath.parse path = ⟨group, [.key key]⟩ := by
  obtain ⟨group, hgroup, key, hkey, hname⟩ := h.form name text path hget hpath htouches
  obtain ⟨path', hpath', hparse⟩ := parse_of_lowercase_eq hgroup hkey hname
  obtain rfl : path = path' := Option.some.inj (hpath.symm.trans hpath')
  exact ⟨group, hgroup, key, hkey, hname, hparse⟩

/-- Only one variable spells the path of a key. -/
theorem ArePlain.name_unique (h : ArePlain env) (hgroup : group ∈ groups) (hkey : IsPlainKey key)
    {other text' : String} (hget' : env.get? other = some text') (hget : env.get? name = some text)
    (hpath' : path? other = some path) (hparse : KeyPath.parse path = ⟨group, [.key key]⟩)
    (hname : Text.lowercase name = nameOf group key) : other = name := by
  obtain ⟨group', -, key', -, hname', hparse'⟩ := h.parse_eq hget' hpath' (by rwa [hparse])
  obtain ⟨rfl, rfl⟩ : group = group' ∧ key = key' := by
    simpa using hparse.symm.trans hparse'
  exact h.unique group hgroup key hkey _ _ _ _ hget' hget hname' hname

theorem ArePlain.isRegular (h : ArePlain env) (hgroup : group ∈ groups) :
    ∀ e ∈ source o env, IsRegular group e := by
  intro e he
  obtain ⟨name, text, path, hget, hpath, rfl⟩ := exists_of_mem_source he
  by_cases htouches : (KeyPath.parse path).first = group
  · obtain ⟨group', -, key, -, -, hparse⟩ := h.parse_eq hget hpath
      (by rw [htouches]; exact hgroup)
    rw [hparse] at htouches
    obtain rfl : group' = group := htouches
    exact .inr (.inr ⟨key, hparse⟩)
  · exact .inl htouches

theorem ArePlain.mem_flatMap_assigned (h : ArePlain env) (hgroup : group ∈ groups)
    (hkey : IsPlainKey key) {t : Tree} :
    (key, t) ∈ (source o env).flatMap (assigned group) ↔ ∃ name text, env.get? name = some text ∧
      Text.lowercase name = nameOf group key ∧ t = .scalar (some .environment) (scalar text) := by
  rw [List.mem_flatMap]
  constructor
  · rintro ⟨e, he, hmem⟩
    obtain ⟨name, text, path, hget, hpath, rfl⟩ := exists_of_mem_source he
    -- what gives something to the section touches it, so the variable has the plain form
    have htouches : (KeyPath.parse path).first = group := by
      by_contra haway
      have hnone : assigned group (path, .scalar (some .environment) (scalar text)) = [] :=
        assigned_of_ne haway
      rw [hnone] at hmem
      cases hmem
    obtain ⟨group', -, key', -, hname, hparse⟩ := h.parse_eq hget hpath
      (by rw [htouches]; exact hgroup)
    rw [hparse] at htouches
    obtain rfl : group' = group := htouches
    unfold assigned at hmem
    rw [hparse] at hmem
    obtain ⟨rfl, rfl⟩ : key = key' ∧ t = .scalar (some .environment) (scalar text) := by
      simpa using hmem
    exact ⟨name, text, hget, hname, rfl⟩
  · rintro ⟨name, text, hget, hname, rfl⟩
    obtain ⟨path, hpath, hparse⟩ := parse_of_lowercase_eq hgroup hkey hname
    have hunique (other text' : String) (hget' : env.get? other = some text')
        (hpath' : path? other = some path) : other = name :=
      h.name_unique hgroup hkey hget' hget hpath' hparse hname
    refine ⟨(path, .scalar (some .environment) (scalar text)), mem_source hget hpath hunique, ?_⟩
    unfold assigned
    rw [hparse]
    simp

theorem ArePlain.setting?_eq_some (h : ArePlain env) (hgroup : group ∈ groups) (hkey : IsPlainKey key)
    {t : Tree} :
    setting? env group key = some t ↔ ∃ name text, env.get? name = some text ∧
      Text.lowercase name = nameOf group key ∧ t = .scalar (some .environment) (scalar text) := by
  unfold setting?
  rw [Option.map_eq_some_iff]
  constructor
  · rintro ⟨⟨name, text⟩, hfind, rfl⟩
    have hname : Text.lowercase name = nameOf group key := by simpa using List.find?_some hfind
    exact ⟨name, text, Environment.mem_toList.1 (List.mem_of_find?_eq_some hfind), hname, rfl⟩
  · rintro ⟨name, text, hget, hname, rfl⟩
    cases hfind : env.toList.find? fun e => Text.lowercase e.1 == nameOf group key with
    | none =>
        have hnone := List.find?_eq_none.1 hfind _ (Environment.mem_toList.2 hget)
        exact absurd (beq_iff_eq.2 hname) hnone
    | some e =>
        obtain ⟨other, text'⟩ := e
        have hother : Text.lowercase other = nameOf group key := by simpa using List.find?_some hfind
        have hget' := Environment.mem_toList.1 (List.mem_of_find?_eq_some hfind)
        -- there is no second variable for the key
        obtain rfl := h.unique group hgroup key hkey _ _ _ _ hget hget' hname hother
        obtain rfl : text = text' := Option.some.inj (hget.symm.trans hget')
        exact ⟨(name, text), rfl, rfl⟩

theorem ArePlain.last?_eq (h : ArePlain env) (hgroup : group ∈ groups) (hkey : IsPlainKey key) :
    Tree.last? ((source o env).flatMap (assigned group)) key = setting? env group key := by
  refine Tree.last?_eq_of_mem_iff fun t => ?_
  rw [h.mem_flatMap_assigned hgroup hkey, h.setting?_eq_some hgroup hkey]

end Override

end Prelaunch.Settings
