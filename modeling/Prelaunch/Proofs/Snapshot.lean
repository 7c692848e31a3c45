import Prelaunch.Artifact.Plan
import Prelaunch.Config.Load
import Prelaunch.Proofs.Environment
import Prelaunch.Proofs.Utf8.Order

/-!
A snapshot of the environment as a function of the pairs it is taken from. Of each name it keeps the
last value and the last text, in whatever order the pairs of other names stand between them, and it
lists the texts in the order of the bytes of their names.
-/

namespace Prelaunch.Environment

variable {pairs pairs' : List (Bytes × Bytes)} {env env' : Environment}

/-! What the pairs have to do with the snapshot. -/

theorem assign_of_decode?_eq_none {pair : Bytes × Bytes} (h : Utf8.decode? pair.1 = none) :
    env.assign pair = env := by
  unfold assign
  rw [h]

/-- A pair whose name is no text is passed over. -/
theorem ofPairs_filter_isSome (pairs : List (Bytes × Bytes)) :
    ofPairs (pairs.filter fun pair => (Utf8.decode? pair.1).isSome) = ofPairs pairs := by
  unfold ofPairs
  rw [List.foldl_filter]
  congr 1
  funext env pair
  cases hname : Utf8.decode? pair.1 with
  | none => exact (assign_of_decode?_eq_none hname).symm
  | some name => rfl

/-- Snapshots that say the same of every name are the same. -/
theorem eq_of_views (hget : ∀ name, env.get? name = env'.get? name)
    (hraw : ∀ name, env.getRaw? name = env'.getRaw? name) : env = env' := by
  obtain ⟨texts, raws⟩ := env
  obtain ⟨texts', raws'⟩ := env'
  rw [mk.injEq]
  exact ⟨OrderedMap.eq_of_find?_eq hget, OrderedMap.eq_of_find?_eq hraw⟩

/-- Only the order among the pairs of one name matters. -/
theorem ofPairs_congr (h : ∀ name, valuesOf pairs name = valuesOf pairs' name) :
    ofPairs pairs = ofPairs pairs' := by
  apply eq_of_views
  · intro name
    rw [get?_ofPairs_eq_getLast?, get?_ofPairs_eq_getLast?, h]
  · intro name
    rw [getRaw?_ofPairs_eq_getLast?, getRaw?_ofPairs_eq_getLast?, h]

theorem valuesOf_of_perm (hperm : pairs.Perm pairs') (hnames : (pairs.map (·.1)).Nodup)
    (name : String) : valuesOf pairs name = valuesOf pairs' name := by
  have hvalues : (valuesOf pairs name).Perm (valuesOf pairs' name) := (hperm.filter _).map _
  -- the name has one value at most, and there is one order of so few
  rw [valuesOf_of_nodup hnames] at hvalues ⊢
  cases hlookup : pairs.lookup (Utf8.encode name) with
  | none =>
      rw [hlookup] at hvalues
      exact (List.nil_perm.1 hvalues).symm
  | some value =>
      rw [hlookup] at hvalues
      exact List.singleton_perm.1 hvalues

/-! The list of a snapshot. -/

/-- Each name that has a text is on the list once, with this text, and the names increase byte by
byte. -/
structure IsListing (env : Environment) (entries : List (String × String)) : Prop where
  mem_iff : ∀ name text, (name, text) ∈ entries ↔ env.get? name = some text
  count_eq : ∀ name, (entries.map (·.1)).count name = if (env.get? name).isSome then 1 else 0
  increasing : entries.Pairwise fun e f => Utf8.encode e.1 < Utf8.encode f.1

theorem mem_map_toList {name : String} :
    name ∈ env.toList.map (·.1) ↔ (env.get? name).isSome = true := by
  rw [List.mem_map, Option.isSome_iff_exists]
  constructor
  · rintro ⟨⟨_, text⟩, hmem, rfl⟩
    exact ⟨text, mem_toList.1 hmem⟩
  · rintro ⟨text, hget⟩
    exact ⟨(name, text), mem_toList.2 hget, rfl⟩

theorem isListing_toList (env : Environment) : IsListing env env.toList where
  mem_iff _ _ := mem_toList
  count_eq name := by
    have hnodup : (env.toList.map (·.1)).Nodup := OrderedMap.nodup_keys env.texts
    rw [hnodup.count]
    simp only [mem_map_toList]
  increasing := env.texts.sorted.imp Utf8.encode_lt_encode

theorem startingWith_eq_filter_isPrefix (env : Environment) (start : String) :
    env.startingWith start = env.toList.filter fun e => start.toList <+: e.1.toList := by
  rw [startingWith_eq_filter]
  refine List.filter_congr fun e _ => ?_
  rw [Bool.eq_iff_iff, startsWith_iff_isPrefix, decide_eq_true_iff]

/-- A snapshot is told by its pairs. The bytes of a name are those of its last pair and its text is
the last one among them, whatever is paired with other names, and names that are no texts count for
nothing. Its list has every text once in the order of the names, and what begins in one way is a
part of it. So pairs with distinct names may come in any order, and the settings and the plan that
are made of them are the same. -/
theorem snapshots_keep_last_values (pairs : List (Bytes × Bytes)) :
    (∀ name, (ofPairs pairs).get? name =
        ((valuesOf pairs name).filterMap Utf8.decode?).getLast? ∧
      (ofPairs pairs).getRaw? name = (valuesOf pairs name).getLast?) ∧
    ofPairs (pairs.filter fun pair => (Utf8.decode? pair.1).isSome) = ofPairs pairs ∧
    IsListing (ofPairs pairs) (ofPairs pairs).toList ∧
    (∀ start, (ofPairs pairs).startingWith start =
      (ofPairs pairs).toList.filter fun e => start.toList <+: e.1.toList) ∧
    ∀ pairs', pairs.Perm pairs' → (pairs.map (·.1)).Nodup →
      ofPairs pairs = ofPairs pairs' ∧
      (∀ dir primary, plan (ofPairs pairs) dir primary = plan (ofPairs pairs') dir primary) ∧
      ∀ m, Config.load m (ofPairs pairs) = Config.load m (ofPairs pairs') := by
  refine ⟨fun name => ⟨get?_ofPairs_eq_getLast? pairs name, getRaw?_ofPairs_eq_getLast? pairs name⟩,
    ofPairs_filter_isSome pairs, isListing_toList _, startingWith_eq_filter_isPrefix _, ?_⟩
  intro pairs' hperm hnames
  have hsame : ofPairs pairs = ofPairs pairs' := ofPairs_congr (valuesOf_of_perm hperm hnames)
  exact ⟨hsame, fun dir primary => by rw [hsame], fun m => by rw [hsame]⟩

/-- The bytes that come last for `A` are no text, so its text is an older one. `A` begins a longer
name, which comes first here. -/
def repeatingPairs : List (Bytes × Bytes) :=
  [(Utf8.encode "AB", [0x30]), (Utf8.encode "A", [0x31]), (Utf8.encode "A", [0x32]),
    ([0xFF], [0x33]), (Utf8.encode "A", [0xFF]), (Utf8.encode "B", [0x34])]

theorem snapshots_keep_last_values_sample :
    (ofPairs repeatingPairs).get? "A" = some "2" ∧
      (ofPairs repeatingPairs).getRaw? "A" = some [0xFF] ∧
      (ofPairs repeatingPairs).startingWith "A" = [("A", "2"), ("AB", "0")] ∧
      ofPairs (repeatingPairs.take 2) = ofPairs (repeatingPairs.take 2).reverse := by
  have hnames : ((repeatingPairs.take 2).map (·.1)).Nodup := by decide +kernel
  obtain ⟨hlast, -, -, hstart, -⟩ := snapshots_keep_last_values repeatingPairs
  refine ⟨?_, ?_, ?_, ?_⟩
  · rw [(hlast "A").1]
    decide +kernel
  · rw [(hlast "A").2]
    decide +kernel
  · rw [hstart]
    decide +kernel
  · exact ((snapshots_keep_last_values (repeatingPairs.take 2)).2.2.2.2 _
      (List.reverse_perm _).symm hnames).1

end Prelaunch.Environment
