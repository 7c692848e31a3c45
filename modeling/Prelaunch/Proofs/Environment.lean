import Mathlib.Data.List.Sort
import Prelaunch.Environment
import Prelaunch.Proofs.Utf8.RoundTrip

/-!
What a snapshot of the environment says of the pairs it was taken from: of each name it keeps the
last value. Its list is what its look-ups say, and the names with one beginning are a part of it.
-/

namespace Prelaunch

namespace OrderedMap

variable {κ ν : Type} [LT κ] [LE κ] [Std.LawfulOrderLT κ]

theorem mem_entries_iff [Std.IsPreorder κ] [BEq κ] [LawfulBEq κ] {m : OrderedMap κ ν} {k : κ} {v : ν} :
    (k, v) ∈ m.entries ↔ m.find? k = some v := by
  obtain ⟨entries, hsorted⟩ := m
  unfold find?
  dsimp only
  induction entries with
  | nil => simp
  | cons e rest ih =>
      obtain ⟨key, value⟩ := e
      obtain ⟨hhead, htail⟩ := List.pairwise_cons.1 hsorted
      rw [List.lookup_cons, List.mem_cons]
      cases hk : k == key with
      | true =>
          obtain rfl := eq_of_beq hk
          -- the keys after the first one are greater, so it is not among them
          have hnot (v : ν) : (k, v) ∉ rest := fun hmem => Std.lt_irrefl (hhead (k, v) hmem)
          simp [hnot, eq_comm]
      | false =>
          have hne : k ≠ key := by simpa using hk
          simp [hne, ih htail]

theorem nodup_keys [Std.IsPreorder κ] (m : OrderedMap κ ν) : (m.entries.map (·.1)).Nodup :=
  List.pairwise_map.2 (m.sorted.imp fun hlt => Std.ne_of_lt hlt)

/-- Of two sorted lists, parts that have the same members are the same. -/
theorem filter_entries_congr [Std.IsPreorder κ] {m m' : OrderedMap κ ν} {p q : κ × ν → Bool}
    (h : ∀ e, (e ∈ m.entries ∧ p e = true) ↔ (e ∈ m'.entries ∧ q e = true)) :
    m.entries.filter p = m'.entries.filter q := by
  have : Std.Irrefl fun a b : κ × ν => a.1 < b.1 := ⟨fun a => Std.lt_irrefl⟩
  have : Std.Antisymm fun a b : κ × ν => a.1 < b.1 :=
    ⟨fun a b hab hba => absurd (Std.lt_trans hab hba) Std.lt_irrefl⟩
  refine (m.sorted.filter p).eq_of_mem_iff (m'.sorted.filter q) fun e => ?_
  rw [List.mem_filter, List.mem_filter, h]

theorem eq_of_find?_eq [Std.IsPreorder κ] [BEq κ] [LawfulBEq κ] {m m' : OrderedMap κ ν}
    (h : ∀ k, m.find? k = m'.find? k) : m = m' := by
  have hentries : m.entries.filter (fun _ => true) = m'.entries.filter (fun _ => true) := by
    apply filter_entries_congr
    intro ⟨k, v⟩
    rw [mem_entries_iff, mem_entries_iff, h]
  rw [List.filter_true, List.filter_true] at hentries
  cases m
  cases m'
  simpa using hentries

end OrderedMap

/-! Names with one beginning. -/

namespace Text

theorem not_lt_of_isPrefix {start cs : List Char} (h : start <+: cs) : ¬cs < start := by
  obtain ⟨rest, rfl⟩ := h
  induction start with
  | nil => exact List.not_lt_nil _
  | cons c start ih => simpa using ih

/-- Between a beginning and a text with this beginning there are only such texts. -/
theorem isPrefix_of_lt {start cs ds : List Char} (hge : ¬cs < start) (hlt : cs < ds)
    (h : start <+: ds) : start <+: cs := by
  induction start generalizing cs ds with
  | nil => exact List.nil_prefix
  | cons c start ih =>
      obtain ⟨rest, rfl⟩ := h
      cases cs with
      | nil => exact absurd (List.nil_lt_cons c start) hge
      | cons d cs =>
          rw [List.cons_append, List.cons_lt_cons_iff] at hlt
          rw [List.cons_lt_cons_iff, not_or] at hge
          obtain hdc | ⟨rfl, hlt⟩ := hlt
          · exact absurd hdc hge.1
          · exact List.prefix_cons_inj d |>.2 (ih (fun h => hge.2 ⟨rfl, h⟩) hlt ⟨rest, rfl⟩)

end Text

namespace Environment

variable {env : Environment}

theorem mem_toList {name text : String} :
    (name, text) ∈ env.toList ↔ env.get? name = some text := OrderedMap.mem_entries_iff

/-- Snapshots whose texts are the same where a test holds have the same texts there. -/
theorem filter_toList_congr {env' : Environment} {test : String × String → Bool}
    (h : ∀ name text, test (name, text) = true →
      (env.get? name = some text ↔ env'.get? name = some text)) :
    env.toList.filter test = env'.toList.filter test := by
  refine OrderedMap.filter_entries_congr fun ⟨name, text⟩ => ?_
  rw [OrderedMap.mem_entries_iff, OrderedMap.mem_entries_iff]
  exact ⟨fun ⟨hget, htest⟩ => ⟨(h name text htest).1 hget, htest⟩,
    fun ⟨hget, htest⟩ => ⟨(h name text htest).2 hget, htest⟩⟩

theorem nonEmpty?_congr {env' : Environment} {name : String} (h : env.get? name = env'.get? name) :
    env.nonEmpty? name = env'.nonEmpty? name := by
  unfold nonEmpty?
  rw [h]

theorem firstNonEmpty?_congr {env' : Environment} {names : List String}
    (h : ∀ name ∈ names, env.nonEmpty? name = env'.nonEmpty? name) :
    env.firstNonEmpty? names = env'.firstNonEmpty? names := by
  induction names with
  | nil => rfl
  | cons name names ih =>
      obtain ⟨hname, hnames⟩ := List.forall_mem_cons.1 h
      have ih := ih hnames
      unfold firstNonEmpty? at ih ⊢
      rw [List.findSome?_cons, List.findSome?_cons, hname, ih]

theorem startsWith_iff_isPrefix {start name : String} :
    Text.startsWith start name = true ↔ start.toList <+: name.toList :=
  List.isPrefixOf_iff_prefix

theorem startsWith_eq_false_of_lt {start name : String} (h : name < start) :
    Text.startsWith start name = false := by
  refine Bool.eq_false_iff.2 fun hstart => ?_
  exact Text.not_lt_of_isPrefix (startsWith_iff_isPrefix.1 hstart) (String.lt_iff.1 h)

theorem startsWith_of_lt {start name other : String} (hge : ¬name < start) (hlt : name < other)
    (h : Text.startsWith start other = true) : Text.startsWith start name = true := by
  rw [startsWith_iff_isPrefix] at h ⊢
  exact Text.isPrefix_of_lt (fun hlt => hge (String.lt_iff.2 hlt)) (String.lt_iff.1 hlt) h

/-- Since the names are in order, those with one beginning are found without a look at the others. -/
theorem startingWith_eq_filter (env : Environment) (start : String) :
    env.startingWith start = env.toList.filter (Text.startsWith start ·.1) := by
  obtain ⟨⟨entries, hsorted⟩, raws⟩ := env
  unfold startingWith toList
  dsimp only
  induction entries with
  | nil => rfl
  | cons e rest ih =>
      obtain ⟨hhead, htail⟩ := List.pairwise_cons.1 hsorted
      have ih := ih htail
      by_cases hlt : e.1 < start
      · have hnot : Text.startsWith start e.1 = false := startsWith_eq_false_of_lt hlt
        rw [List.dropWhile_cons_of_pos (by simpa using hlt), List.filter_cons_of_neg (by simp [hnot])]
        exact ih
      · rw [List.dropWhile_cons_of_neg (by simpa using hlt)]
        cases hstart : Text.startsWith start e.1 with
        | true =>
            -- nothing after this name is before the beginning either
            have hdrop : rest.dropWhile (·.1 < start) = rest := by
              cases rest with
              | nil => rfl
              | cons f rest =>
                  have hef := hhead f List.mem_cons_self
                  refine List.dropWhile_cons_of_neg ?_
                  simpa using fun hf => hlt (Std.lt_trans hef hf)
            rw [hdrop] at ih
            rw [List.takeWhile_cons_of_pos (by exact hstart), List.filter_cons_of_pos (by exact hstart), ih]
        | false =>
            have hnone : rest.filter (Text.startsWith start ·.1) = [] := by
              refine List.filter_eq_nil_iff.2 fun f hf hother => ?_
              rw [startsWith_of_lt hlt (hhead f hf) hother] at hstart
              cases hstart
            rw [List.takeWhile_cons_of_neg (by simp [hstart]),
              List.filter_cons_of_neg (by simp [hstart]), hnone]

/-! The pairs of a snapshot. -/

theorem getRaw?_assign (env : Environment) (pair : Bytes × Bytes) (name : String) :
    (env.assign pair).getRaw? name =
      if Utf8.encode name = pair.1 then some pair.2 else env.getRaw? name := by
  unfold assign getRaw?
  cases hname : Utf8.decode? pair.1 with
  | none =>
      rw [if_neg]
      intro heq
      rw [← heq, Utf8.decode?_encode] at hname
      cases hname
  | some other =>
      rw [Utf8.decode?_eq_some_iff.1 hname, OrderedMap.find?_insert]
      simp [Utf8.encode_inj]

theorem get?_assign (env : Environment) (pair : Bytes × Bytes) (name : String) :
    (env.assign pair).get? name =
      if Utf8.encode name = pair.1 then (Utf8.decode? pair.2).or (env.get? name)
      else env.get? name := by
  unfold assign get?
  cases hname : Utf8.decode? pair.1 with
  | none =>
      rw [if_neg]
      intro heq
      rw [← heq, Utf8.decode?_encode] at hname
      cases hname
  | some other =>
      rw [Utf8.decode?_eq_some_iff.1 hname]
      cases Utf8.decode? pair.2 with
      | none => simp
      | some text => simp [OrderedMap.find?_insert, Utf8.encode_inj]

section Pairs

variable {pairs : List (Bytes × Bytes)}

theorem lookup_eq_none_of_notMem {name : Bytes} (h : name ∉ pairs.map (·.1)) :
    pairs.lookup name = none := by
  refine List.lookup_eq_none_iff.2 fun e he => bne_iff_ne.2 fun heq => h ?_
  rw [heq]
  exact List.mem_map_of_mem he

theorem lookup_filter (hnames : (pairs.map (·.1)).Nodup) (keep : Bytes × Bytes → Bool)
    (name : Bytes) :
    (pairs.filter keep).lookup name = (pairs.lookup name).filter fun value => keep (name, value) := by
  induction pairs with
  | nil => rfl
  | cons pair rest ih =>
      obtain ⟨hnotMem, hrest⟩ := List.nodup_cons.1 hnames
      have ih := ih hrest
      obtain ⟨other, value⟩ := pair
      rw [List.lookup_cons]
      by_cases heq : name = other
      · subst heq
        have hnone : rest.lookup name = none := lookup_eq_none_of_notMem hnotMem
        rw [hnone] at ih
        rw [beq_self_eq_true, Option.filter_some]
        cases hkeep : keep (name, value) with
        | true => rw [List.filter_cons_of_pos hkeep, List.lookup_cons, beq_self_eq_true]; rfl
        | false => rw [List.filter_cons_of_neg (Bool.eq_false_iff.1 hkeep), ih]; rfl
      · have hne : (name == other) = false := beq_false_of_ne heq
        cases hkeep : keep (other, value) with
        | true => simpa [List.filter_cons_of_pos, hkeep, List.lookup_cons, hne] using ih
        | false => simpa [List.filter_cons_of_neg, hkeep, hne] using ih

/-- The values that are paired with a name, in their order. -/
def valuesOf (pairs : List (Bytes × Bytes)) (name : String) : List Bytes :=
  (pairs.filter (·.1 == Utf8.encode name)).map (·.2)

theorem valuesOf_cons (pair : Bytes × Bytes) (rest : List (Bytes × Bytes)) (name : String) :
    valuesOf (pair :: rest) name =
      if Utf8.encode name = pair.1 then pair.2 :: valuesOf rest name else valuesOf rest name := by
  unfold valuesOf
  rw [List.filter_cons]
  by_cases heq : Utf8.encode name = pair.1
  · simp [heq]
  · simp [heq, Ne.symm heq]

theorem valuesOf_of_nodup (hnames : (pairs.map (·.1)).Nodup) (name : String) :
    valuesOf pairs name = (pairs.lookup (Utf8.encode name)).toList := by
  induction pairs with
  | nil => rfl
  | cons pair rest ih =>
      obtain ⟨hnotMem, hrest⟩ := List.nodup_cons.1 hnames
      rw [valuesOf_cons, List.lookup_cons, ih hrest]
      by_cases heq : Utf8.encode name = pair.1
      · have hnone : rest.lookup (Utf8.encode name) = none :=
          lookup_eq_none_of_notMem (heq ▸ hnotMem)
        rw [hnone, if_pos heq, beq_iff_eq.2 heq]
        rfl
      · rw [if_neg heq, beq_false_of_ne heq]

/-- What a snapshot says of a name changes by the pairs of this name only, and of these it keeps the
last one that can be read. -/
theorem view_foldl_assign {α : Type} (view : Environment → Option α) (read : Bytes → Option α)
    (name : String)
    (hassign : ∀ env pair, view (assign env pair) =
      if Utf8.encode name = pair.1 then (read pair.2).or (view env) else view env)
    (pairs : List (Bytes × Bytes)) (env : Environment) :
    view (pairs.foldl assign env) =
      ((valuesOf pairs name).filterMap read).getLast?.or (view env) := by
  induction pairs generalizing env with
  | nil => rfl
  | cons pair rest ih =>
      rw [List.foldl_cons, ih, hassign, valuesOf_cons]
      split
      · rw [List.filterMap_cons]
        -- a value that can be read stands until a later one replaces it
        cases read pair.2 with
        | none => rfl
        | some a =>
            dsimp only
            rw [List.getLast?_cons]
            cases ((valuesOf rest name).filterMap read).getLast? <;> rfl
      · rfl

theorem getRaw?_ofPairs_eq_getLast? (pairs : List (Bytes × Bytes)) (name : String) :
    (ofPairs pairs).getRaw? name = (valuesOf pairs name).getLast? := by
  have hview := view_foldl_assign (getRaw? · name) some name
    (fun env pair => getRaw?_assign env pair name) pairs empty
  rw [ofPairs, hview]
  simp [getRaw?, empty]

theorem get?_ofPairs_eq_getLast? (pairs : List (Bytes × Bytes)) (name : String) :
    (ofPairs pairs).get? name = ((valuesOf pairs name).filterMap Utf8.decode?).getLast? := by
  have hview := view_foldl_assign (get? · name) Utf8.decode? name
    (fun env pair => get?_assign env pair name) pairs empty
  rw [ofPairs, hview]
  simp [get?, empty]

theorem getRaw?_ofPairs (hnames : (pairs.map (·.1)).Nodup) (name : String) :
    (ofPairs pairs).getRaw? name = pairs.lookup (Utf8.encode name) := by
  rw [getRaw?_ofPairs_eq_getLast?, valuesOf_of_nodup hnames]
  cases pairs.lookup (Utf8.encode name) <;> rfl

theorem get?_ofPairs (hnames : (pairs.map (·.1)).Nodup) (name : String) :
    (ofPairs pairs).get? name = (pairs.lookup (Utf8.encode name)).bind Utf8.decode? := by
  rw [get?_ofPairs_eq_getLast?, valuesOf_of_nodup hnames]
  cases pairs.lookup (Utf8.encode name) with
  | none => rfl
  | some value => cases hvalue : Utf8.decode? value <;> simp [hvalue]

end Pairs

end Environment

end Prelaunch
