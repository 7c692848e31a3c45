import Prelaunch.Proofs.Arrangement
import Prelaunch.Proofs.Settings.Overlay
import Prelaunch.Proofs.Success

/-!
Readings of the fields of a group. They tell trees apart only by what is seen of them. Each field is
read into a part of the group of its own, so what a group holds in the end, and whether it can be read
at all, does not depend on the order in which the fields come.
-/

namespace Prelaunch.Settings

variable {σ α : Type}

namespace Tree

theorem cases_of_seen_eq {t t' : Tree} (h : t.seen = t'.seen) :
    t = t' ∨ (∃ entries entries', t = .table entries ∧ t' = .table entries') ∨
      ∃ origin items items', t = .array origin items ∧ t' = .array origin items' := by
  obtain ⟨hfound, horigin⟩ := Prod.mk.inj h
  cases t with
  | scalar origin s =>
      cases t' with
      | scalar origin' s' =>
          obtain rfl : s = s' := Found.scalar.inj hfound
          obtain rfl : origin = origin' := horigin
          exact .inl rfl
      | table => cases hfound
      | array => cases hfound
  | table entries =>
      cases t' with
      | scalar => cases hfound
      | table entries' => exact .inr (.inl ⟨entries, entries', rfl, rfl⟩)
      | array => cases hfound
  | array origin items =>
      cases t' with
      | scalar => cases hfound
      | table => cases hfound
      | array origin' items' =>
          obtain rfl : origin = origin' := horigin
          exact .inr (.inr ⟨origin, items, items', rfl, rfl⟩)

end Tree

/-- Trees that are seen alike are read alike. -/
def ReadsSeen (read : Named → Except LoadError α) : Prop :=
  ∀ key t t', Tree.seen t = Tree.seen t' → read ⟨key, t⟩ = read ⟨key, t'⟩

namespace Named

theorem readsSeen_text : ReadsSeen text := by
  intro key t t' h
  obtain rfl | ⟨_, _, rfl, rfl⟩ | ⟨_, _, _, rfl, rfl⟩ := Tree.cases_of_seen_eq h <;> rfl

theorem readsSeen_count : ReadsSeen count := by
  intro key t t' h
  obtain rfl | ⟨_, _, rfl, rfl⟩ | ⟨_, _, _, rfl, rfl⟩ := Tree.cases_of_seen_eq h <;> rfl

theorem readsSeen_optionalCount : ReadsSeen optionalCount := by
  intro key t t' h
  obtain rfl | ⟨_, _, rfl, rfl⟩ | ⟨_, _, _, rfl, rfl⟩ := Tree.cases_of_seen_eq h <;> rfl

end Named

/-! One field. -/

namespace Slot

variable {f : Slot σ} {get : σ → α} {decode : Named → Except LoadError α} {put : σ → α → σ}
  {name : String} {n : Named}

/-- What is read of the field is what a part of the group is then. -/
def Fills (f : Slot σ) (get : σ → α) (decode : Named → Except LoadError α) : Prop :=
  ∀ s n s', f.read s n = .ok s' → decode n = .ok (get s')

/-- A part of the group is as it was before the field was read. -/
def Spares (f : Slot σ) (get : σ → α) : Prop := ∀ s n s', f.read s n = .ok s' → get s' = get s

/-- The field can be read, whatever else has been read. -/
def Accepts (f : Slot σ) (n : Named) : Prop := ∀ s, ∃ s', f.read s n = .ok s'

theorem read_of_eq_ok {s s' : σ} (h : (Slot.of name decode put).read s n = .ok s') :
    ∃ v, decode n = .ok v ∧ put s v = s' :=
  map_eq_ok.1 h

theorem fills_of (hput : ∀ s v, get (put s v) = v) : (Slot.of name decode put).Fills get decode := by
  intro s n s' h
  obtain ⟨v, hdecode, rfl⟩ := read_of_eq_ok h
  rw [hdecode, hput]

theorem spares_of {β : Type} {other : σ → β} (hput : ∀ s v, other (put s v) = other s) :
    (Slot.of name decode put).Spares other := by
  intro s n s' h
  obtain ⟨v, -, rfl⟩ := read_of_eq_ok h
  exact hput s v

theorem accepts_of {v : α} (h : decode n = .ok v) : (Slot.of name decode put).Accepts n := by
  intro s
  exact ⟨put s v, map_eq_ok.2 ⟨v, h, rfl⟩⟩

end Slot

/-! All fields that are found. -/

namespace Group

variable {found : List (Slot σ × Named)} {start s : σ} {get : σ → α}
  {decode : Named → Except LoadError α} {f : Slot σ} {n : Named}

/-- What each field leaves true is true of what is read. -/
theorem readInto_induction {P : σ → Prop} (h : readInto start found = .ok s) (hstart : P start)
    (hstep : ∀ x ∈ found, ∀ s s', P s → x.1.read s x.2 = .ok s' → P s') : P s := by
  induction found generalizing start with
  | nil => exact Except.ok.inj h ▸ hstart
  | cons x rest ih =>
      obtain ⟨hx, hrest⟩ := List.forall_mem_cons.1 hstep
      obtain ⟨next, hread, h⟩ := bind_eq_ok.1 h
      exact ih h (hx _ _ hstart hread) hrest

theorem get_of_spares (h : readInto start found = .ok s) (hspares : ∀ x ∈ found, x.1.Spares get) :
    get s = get start := by
  refine readInto_induction (P := fun s => get s = get start) h rfl ?_
  intro x hx s s' hs hread
  rw [hspares x hx _ _ _ hread, hs]

/-- One field decides on its part of the group, wherever it comes among the others. -/
theorem decode_of_mem (h : readInto start found = .ok s) (hmem : (f, n) ∈ found)
    (hfills : f.Fills get decode) (hothers : ∀ x ∈ found, x = (f, n) ∨ x.1.Spares get) :
    decode n = .ok (get s) := by
  induction found generalizing start with
  | nil => cases hmem
  | cons x rest ih =>
      obtain ⟨-, hrest⟩ := List.forall_mem_cons.1 hothers
      obtain ⟨next, hread, hnext⟩ := bind_eq_ok.1 h
      by_cases hlater : (f, n) ∈ rest
      · exact ih hnext hlater hrest
      · obtain rfl : (f, n) = x := (List.mem_cons.1 hmem).resolve_right hlater
        have hspares : ∀ y ∈ rest, y.1.Spares get := fun y hy =>
          (hrest y hy).resolve_left fun heq => hlater (heq ▸ hy)
        rw [get_of_spares hnext hspares]
        exact hfills _ _ _ hread

theorem exists_readInto (haccepts : ∀ x ∈ found, x.1.Accepts x.2) :
    ∃ s, readInto start found = .ok s := by
  induction found generalizing start with
  | nil => exact ⟨start, rfl⟩
  | cons x rest ih =>
      obtain ⟨hx, hrest⟩ := List.forall_mem_cons.1 haccepts
      obtain ⟨next, hread⟩ := hx start
      obtain ⟨s, hs⟩ : ∃ s, readInto next rest = .ok s := ih hrest
      exact ⟨s, bind_eq_ok.2 ⟨next, hread, hs⟩⟩

variable {o : HashOrder} {table : HashTable} {keyOf : String → String} {fields : List (Slot σ)}
  {entries : List (String × Tree)} {name : String}

theorem mem_inTable : (f, n) ∈ inTable o table keyOf fields entries ↔
    f ∈ fields ∧ ∃ t, entries.lookup f.name = some t ∧ n = ⟨keyOf f.name, t⟩ := by
  unfold inTable
  rw [(arranged_perm _ _).mem_iff, List.mem_filterMap]
  constructor
  · rintro ⟨g, hg, hfound⟩
    obtain ⟨t, ht, heq⟩ := Option.map_eq_some_iff.1 hfound
    obtain ⟨rfl, rfl⟩ := Prod.mk.inj heq
    exact ⟨hg, t, ht, rfl⟩
  · rintro ⟨hf, t, ht, rfl⟩
    exact ⟨f, hf, by rw [ht]; rfl⟩

theorem mem_of_mem_inList {items : List Tree} (h : (f, n) ∈ inList name fields items) :
    f ∈ fields := by
  obtain ⟨⟨g, t, place⟩, hmem, heq⟩ := List.mem_map.1 h
  obtain ⟨rfl, -⟩ := Prod.mk.inj heq
  exact (List.of_mem_zip hmem).1

/-- Nothing but the fields has a say in what is read, whether a table or a list is. -/
theorem read_induction {P : σ → Prop} {typeName : String} {default : σ} {t : Tree}
    (h : read o name typeName fields default t = .ok s) (hdefault : P default)
    (hstep : ∀ f ∈ fields, ∀ n s s', P s → f.read s n = .ok s' → P s') : P s := by
  obtain ⟨found, hgiven, h⟩ := bind_eq_ok.1 h
  refine readInto_induction h hdefault fun x hx s s' => hstep x.1 ?_ x.2 s s'
  cases t with
  | scalar origin s => cases hgiven
  | table entries =>
      obtain rfl := Except.ok.inj hgiven
      exact (mem_inTable.1 hx).1
  | array origin items =>
      obtain rfl := Except.ok.inj hgiven
      exact mem_of_mem_inList hx

/-- One of the fields is read into a part of the group that no other changes. -/
def IsPart (fields : List (Slot σ)) (name : String) (get : σ → α)
    (decode : Named → Except LoadError α) : Prop :=
  ∃ f ∈ fields, f.name = name ∧ f.Fills get decode ∧ ∀ g ∈ fields, g = f ∨ g.Spares get

/-- What a table has for a field is read as its part, and what it has nothing for is left as it
was. -/
theorem IsPart.of_inTable (hpart : IsPart fields name get decode)
    (h : readInto start (inTable o table keyOf fields entries) = .ok s) :
    match entries.lookup name with
    | some t => decode ⟨keyOf name, t⟩ = .ok (get s)
    | none => get s = get start := by
  obtain ⟨f, hf, rfl, hfills, hothers⟩ := hpart
  cases hentry : entries.lookup f.name with
  | some t =>
      refine decode_of_mem h (mem_inTable.2 ⟨hf, t, hentry, rfl⟩) hfills ?_
      rintro ⟨g, n⟩ hfound
      obtain ⟨hg, t', ht', rfl⟩ := mem_inTable.1 hfound
      rcases hothers g hg with rfl | hspares
      · rw [Option.some.inj (hentry.symm.trans ht')]
        exact .inl rfl
      · exact .inr hspares
  | none =>
      refine get_of_spares h ?_
      rintro ⟨g, n⟩ hfound
      obtain ⟨hg, t', ht', -⟩ := mem_inTable.1 hfound
      rcases hothers g hg with rfl | hspares
      · rw [hentry] at ht'
        cases ht'
      · exact hspares

theorem read_table {typeName : String} {default : σ} (entries : List (String × Tree)) :
    read o name typeName fields default (.table entries) =
      readInto default (inTable o (.group name) (Group.keyOf name) fields entries) := rfl

end Group

end Prelaunch.Settings
