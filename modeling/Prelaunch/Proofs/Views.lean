import Prelaunch.EnvFile
import Prelaunch.Proofs.Construction
import Prelaunch.Proofs.VariableUse

/-!
The two views of a snapshot. The bytes of a variable are the last of its values, and its text is the
last of them that is one, so the views part where a text has been replaced by bytes that are none.
There settings and plans go by the replaced text, and whoever is launched gets the bytes. As long as
no such variable is asked for, a run goes by what is handed on.
-/

namespace Prelaunch

/-- The variables as a process hands them on: of the pairs with one name the last. -/
def Variables.ofPairs (pairs : List (Bytes × Bytes)) : Variables :=
  pairs.foldl (fun vars pair => vars.insert pair.1 pair.2) .empty

namespace Environment

variable {pairs : List (Bytes × Bytes)} {env env' : Environment} {name text : String}
  {value : Bytes}

/-! What the pairs of a name have to do with the two views. -/

theorem getRaw?_ofPairs_eq_some :
    (ofPairs pairs).getRaw? name = some value ↔
      ∃ older, valuesOf pairs name = older ++ [value] := by
  rw [getRaw?_ofPairs_eq_getLast?, List.getLast?_eq_some_iff]

theorem get?_ofPairs_eq_some :
    (ofPairs pairs).get? name = some text ↔ ∃ older newer,
      valuesOf pairs name = older ++ Utf8.encode text :: newer ∧
        ∀ value ∈ newer, Utf8.decode? value = none := by
  rw [get?_ofPairs_eq_getLast?, List.getLast?_filterMap, List.findSome?_eq_some_iff]
  constructor
  · rintro ⟨newer, value, older, hvalues, htext, hnone⟩
    refine ⟨older.reverse, newer.reverse, ?_,
      fun value hvalue => hnone value (by simpa using hvalue)⟩
    rw [← Utf8.decode?_eq_some_iff.1 htext, List.reverse_eq_append_iff.1 hvalues]
    simp
  · rintro ⟨older, newer, hvalues, hnone⟩
    refine ⟨newer.reverse, Utf8.encode text, older.reverse, ?_, Utf8.decode?_encode text,
      fun value hvalue => hnone value (by simpa using hvalue)⟩
    simp [hvalues]

/-- A text that comes last is what both views say. -/
theorem get?_of_getRaw? (hraw : (ofPairs pairs).getRaw? name = some value)
    (htext : Utf8.decode? value = some text) : (ofPairs pairs).get? name = some text := by
  obtain ⟨older, hvalues⟩ := getRaw?_ofPairs_eq_some.1 hraw
  rw [Utf8.decode?_eq_some_iff.1 htext] at hvalues
  exact get?_ofPairs_eq_some.2 ⟨older, [], hvalues, by simp⟩

theorem exists_getRaw?_of_get? (hget : (ofPairs pairs).get? name = some text) :
    ∃ value, (ofPairs pairs).getRaw? name = some value := by
  obtain ⟨older, newer, hvalues, -⟩ := get?_ofPairs_eq_some.1 hget
  rw [← Option.isSome_iff_exists, getRaw?_ofPairs_eq_getLast?, List.getLast?_isSome, hvalues]
  simp

/-! Texts that have been replaced. -/

/-- The text of a variable is what its bytes spell, and there is none if they spell none. -/
def ViewsAgree (env : Environment) (name : String) : Prop :=
  ∀ text, env.get? name = some text ↔
    ∃ value, env.getRaw? name = some value ∧ Utf8.decode? value = some text

theorem viewsAgree_iff :
    env.ViewsAgree name ↔ env.get? name = (env.getRaw? name).bind Utf8.decode? := by
  unfold ViewsAgree
  simp only [← Option.bind_eq_some_iff]
  exact ⟨Option.ext, fun heq text => by rw [heq]⟩

instance : Decidable (env.ViewsAgree name) := decidable_of_iff _ viewsAgree_iff.symm

/-- The last text of a name, with bytes behind it that are none. -/
inductive IsOutdated (pairs : List (Bytes × Bytes)) (name text : String) : Prop where
  | replaced (older newer : List Bytes)
      (hvalues : valuesOf pairs name = older ++ Utf8.encode text :: newer) (hne : newer ≠ [])
      (hnone : ∀ value ∈ newer, Utf8.decode? value = none)

theorem isOutdated_iff : IsOutdated pairs name text ↔
    (ofPairs pairs).get? name = some text ∧
      ∃ value, (ofPairs pairs).getRaw? name = some value ∧ Utf8.decode? value = none := by
  constructor
  · rintro ⟨older, newer, hvalues, hne, hnone⟩
    obtain rfl | ⟨between, value, rfl⟩ := List.eq_nil_or_concat newer
    · exact absurd rfl hne
    · refine ⟨get?_ofPairs_eq_some.2 ⟨_, _, hvalues, hnone⟩, value, ?_, hnone value (by simp)⟩
      exact getRaw?_ofPairs_eq_some.2 ⟨older ++ Utf8.encode text :: between, by simp [hvalues]⟩
  · rintro ⟨hget, value, hraw, hnot⟩
    obtain ⟨older, newer, hvalues, hnone⟩ := get?_ofPairs_eq_some.1 hget
    refine .replaced older newer hvalues ?_ hnone
    rintro rfl
    -- with nothing behind it the text itself is the last value
    have hlast := getRaw?_ofPairs_eq_some.2 ⟨older, hvalues⟩
    obtain rfl := Option.some.inj (hlast.symm.trans hraw)
    rw [Utf8.decode?_encode] at hnot
    cases hnot

theorem viewsAgree_ofPairs_iff :
    (ofPairs pairs).ViewsAgree name ↔ ∀ text, ¬IsOutdated pairs name text := by
  constructor
  · intro hagree text houtdated
    obtain ⟨hget, value, hraw, hnone⟩ := isOutdated_iff.1 houtdated
    obtain ⟨value', hraw', htext⟩ := (hagree text).1 hget
    obtain rfl := Option.some.inj (hraw.symm.trans hraw')
    rw [hnone] at htext
    cases htext
  · intro hnot text
    constructor
    · intro hget
      obtain ⟨value, hraw⟩ := exists_getRaw?_of_get? hget
      refine ⟨value, hraw, ?_⟩
      cases htext : Utf8.decode? value with
      | none => exact absurd (isOutdated_iff.2 ⟨hget, value, hraw, htext⟩) (hnot text)
      | some text' => exact (get?_of_getRaw? hraw htext).symm.trans hget
    · rintro ⟨value, hraw, htext⟩
      exact get?_of_getRaw? hraw htext

/-- Bytes that are no text have come after a text of the same name. -/
theorem IsOutdated.exists_mem (h : IsOutdated pairs name text) :
    ∃ value, (Utf8.encode name, value) ∈ pairs ∧ Utf8.decode? value = none := by
  obtain ⟨older, newer, hvalues, hne, hnone⟩ := h
  obtain ⟨value, rest, rfl⟩ := List.exists_cons_of_ne_nil hne
  have hmem : value ∈ valuesOf pairs name := by simp [hvalues]
  obtain ⟨⟨other, value⟩, hpair, rfl⟩ := List.mem_map.1 hmem
  obtain ⟨hpair, heq⟩ := List.mem_filter.1 hpair
  obtain rfl := eq_of_beq heq
  exact ⟨value, hpair, hnone value List.mem_cons_self⟩

theorem IsOutdated.not_nodup (h : IsOutdated pairs name text) : ¬(pairs.map (·.1)).Nodup := by
  obtain ⟨older, newer, hvalues, hne, -⟩ := h
  intro hnames
  have hlength : (valuesOf pairs name).length ≤ 1 := by
    rw [valuesOf_of_nodup hnames]
    exact Option.length_toList_le
  have := List.length_pos_iff.2 hne
  rw [hvalues, List.length_append, List.length_cons] at hlength
  omega

/-! What is handed on. -/

/-- Pair by pair, what is handed on is what the snapshot has as bytes. -/
theorem getRaw?_foldl_assign {vars : Variables}
    (h : ∀ name, env.getRaw? name = vars.find? (Utf8.encode name)) (name : String) :
    (pairs.foldl assign env).getRaw? name =
      (pairs.foldl (fun vars pair => vars.insert pair.1 pair.2) vars).find? (Utf8.encode name) := by
  induction pairs generalizing env vars with
  | nil => exact h name
  | cons pair rest ih =>
      rw [List.foldl_cons, List.foldl_cons]
      refine ih fun other => ?_
      rw [getRaw?_assign, OrderedMap.find?_insert, h]
      simp

theorem find?_variables (pairs : List (Bytes × Bytes)) (name : String) :
    (Variables.ofPairs pairs).find? (Utf8.encode name) = (ofPairs pairs).getRaw? name :=
  (getRaw?_foldl_assign (fun _ => rfl) name).symm

/-- A snapshot of what is handed on has the same bytes. -/
theorem getRaw?_of_variables (pairs : List (Bytes × Bytes)) (name : String) :
    (ofPairs (Variables.ofPairs pairs).entries).getRaw? name = (ofPairs pairs).getRaw? name := by
  rw [getRaw?_ofPairs (OrderedMap.nodup_keys _)]
  exact find?_variables pairs name

theorem get?_of_variables (h : (ofPairs pairs).ViewsAgree name) :
    (ofPairs (Variables.ofPairs pairs).entries).get? name = (ofPairs pairs).get? name := by
  rw [get?_ofPairs (OrderedMap.nodup_keys _), viewsAgree_iff.1 h, ← find?_variables]
  rfl

/-- The texts are those of the pairs that have texts as values. -/
theorem get?_ofPairs_filter_isSome (pairs : List (Bytes × Bytes)) (name : String) :
    (ofPairs (pairs.filter fun pair => (Utf8.decode? pair.2).isSome)).get? name =
      (ofPairs pairs).get? name := by
  have hvalues : valuesOf (pairs.filter fun pair => (Utf8.decode? pair.2).isSome) name =
      (valuesOf pairs name).filter fun value => (Utf8.decode? value).isSome := by
    unfold valuesOf
    rw [List.filter_map, List.filter_filter, List.filter_filter]
    congr 1
    exact List.filter_congr fun pair _ => Bool.and_comm _ _
  rw [get?_ofPairs_eq_getLast?, get?_ofPairs_eq_getLast?, hvalues, List.filterMap_filter]
  congr 1
  refine List.filterMap_congr fun value _ => ?_
  cases Utf8.decode? value <;> rfl

/-! Settings and plans. -/

/-- Both snapshots give the same settings and the same plans. -/
structure ConfiguresAs (env env' : Environment) : Prop where
  load : ∀ m, Config.load m env = Config.load m env'
  plan : ∀ dir primary, Prelaunch.plan env dir primary = Prelaunch.plan env' dir primary

theorem configuresAs_of_get? (h : ∀ name, IsConsulted name → env.get? name = env'.get? name) :
    ConfiguresAs env env' where
  load := Config.load_congr_get? h
  plan := plan_congr (by rw [Plan.candidates_congr h])

/-- The two views of a name part exactly where a text of it has been replaced by bytes that are
none: the one then says the text, the other the bytes. For that a name has to be repeated, with a
value that is no text. Settings and plans go by the texts among the pairs, as if there were no other
values, and whoever is launched is given the bytes. If no variable that settings and plans are made
of has such a text, they go by what is handed on as well, and so does the whole run. -/
theorem views_part_at_outdated_texts (pairs : List (Bytes × Bytes)) :
    let env := ofPairs pairs
    let texts := ofPairs (pairs.filter fun pair => (Utf8.decode? pair.2).isSome)
    let handedOn := ofPairs (Variables.ofPairs pairs).entries
    (∀ name, env.ViewsAgree name ↔ ∀ text, ¬IsOutdated pairs name text) ∧
    (∀ name text, IsOutdated pairs name text ↔ env.get? name = some text ∧
      ∃ value, env.getRaw? name = some value ∧ Utf8.decode? value = none) ∧
    ((pairs.map (·.1)).Nodup ∨ (∀ pair ∈ pairs, (Utf8.decode? pair.2).isSome = true) →
      ∀ name, env.ViewsAgree name) ∧
    env.ConfiguresAs texts ∧
    (∀ s args, Launch.make s args env = Launch.make s args handedOn) ∧
    (∀ (l : Launch) (name : String), name ≠ l.modulePathVar →
      (l.environment (Variables.ofPairs pairs)).find? (Utf8.encode name) = env.getRaw? name) ∧
    ((∀ name, IsConsulted name → env.ViewsAgree name) →
      env.ConfiguresAs handedOn ∧
        ∀ m args, Bootstrap.run m args env = Bootstrap.run m args handedOn) := by
  have hraw (name : String) := (getRaw?_of_variables pairs name).symm
  refine ⟨fun _ => viewsAgree_ofPairs_iff, fun _ _ => isOutdated_iff, fun h name => ?_,
    configuresAs_of_get? fun name _ => (get?_ofPairs_filter_isSome pairs name).symm,
    fun s => Launch.make_congr (hraw _), fun l name hname => ?_, fun hagree => ?_⟩
  · refine viewsAgree_ofPairs_iff.2 fun text houtdated => ?_
    obtain hnames | htexts := h
    · exact houtdated.not_nodup hnames
    · obtain ⟨value, hmem, hnone⟩ := houtdated.exists_mem
      have htext := htexts _ hmem
      rw [hnone] at htext
      cases htext
  · unfold Launch.environment
    rw [OrderedMap.find?_insert, beq_false_of_ne fun heq => hname (Utf8.encode_inj.1 heq)]
    exact find?_variables pairs name
  · have hget (name : String) (hname : IsConsulted name) :=
      (get?_of_variables (hagree name hname)).symm
    exact ⟨configuresAs_of_get? hget, Bootstrap.run_congr hget hraw⟩

/-! A variable with two values, of which the later one is no text. Nothing asks for it, so it does
not matter which of the values counts. -/

def strayPairs : List (Bytes × Bytes) :=
  [(Utf8.encode "X", Utf8.encode "1"), (Utf8.encode "CONFIG_DIR", Utf8.encode "/a"),
    (Utf8.encode "X", [0xFF]), (Utf8.encode "CONFIG_DIR", Utf8.encode "/d"),
    (Utf8.encode "CONFIG_URL_A", Utf8.encode "http://h/a")]

theorem views_part_at_outdated_texts_sample :
    IsOutdated strayPairs "X" "1" ∧ ¬(ofPairs strayPairs).ViewsAgree "X" ∧
    (∀ name, IsConsulted name → (ofPairs strayPairs).ViewsAgree name) ∧
    Bootstrap.run Bootstrap.sampleMachine [] (ofPairs strayPairs) =
      Bootstrap.run Bootstrap.sampleMachine [] (ofPairs (Variables.ofPairs strayPairs).entries) ∧
    (Launch.environment ⟨"p", [], "PYTHONPATH", []⟩ (Variables.ofPairs strayPairs)).find?
      (Utf8.encode "X") = some [0xFF] ∧
    ((strayPairs.take 2).map (·.1)).Nodup ∧ (ofPairs (strayPairs.take 2)).ViewsAgree "X" := by
  obtain ⟨hagree, houtdated, -, -, -, hlaunched, hrun⟩ := views_part_at_outdated_texts strayPairs
  have hraw : (ofPairs strayPairs).getRaw? "X" = some [0xFF] := by decide +kernel
  have hstray : IsOutdated strayPairs "X" "1" :=
    (houtdated "X" "1").2 ⟨by decide +kernel, [0xFF], hraw, by decide +kernel⟩
  have hconsulted (name : String) (hname : IsConsulted name) :
      (ofPairs strayPairs).ViewsAgree name := by
    refine (hagree name).2 fun text h => ?_
    obtain ⟨value, hmem, hnone⟩ := h.exists_mem
    have honly : ∀ pair ∈ strayPairs, Utf8.decode? pair.2 = none → pair.1 = Utf8.encode "X" := by
      decide +kernel
    have hnot : ¬IsConsulted "X" := by
      unfold IsConsulted Settings.Override.IsDeploymentName
      decide +kernel
    rw [Utf8.encode_inj.1 (honly _ hmem hnone)] at hname
    exact hnot hname
  have hnames : ((strayPairs.take 2).map (·.1)).Nodup := by decide +kernel
  refine ⟨hstray, fun h => (hagree "X").1 h "1" hstray, hconsulted, (hrun hconsulted).2 _ _, ?_,
    hnames, (views_part_at_outdated_texts (strayPairs.take 2)).2.2.1 (.inl hnames) "X"⟩
  exact (hlaunched _ "X" (by decide)).trans hraw

/-- The working directory as a text and then as bytes that are none. It is the search path for
modules too. -/
def replacedPairs : List (Bytes × Bytes) :=
  [(Utf8.encode "BOOTFETCH__BOOTSTRAP__MODULE_PATH_VAR", Utf8.encode "CONFIG_DIR"),
    (Utf8.encode "CONFIG_DIR", Utf8.encode "/a"), (Utf8.encode "CONFIG_DIR", [0x2F, 0xFF])]

/-- One run takes the variable for both: it works in the directory that the text names, and launches
with the bytes. With the variables as they are handed on, the directory is another one. -/
theorem outdated_text_is_acted_on :
    let env := ofPairs replacedPairs
    let handedOn := ofPairs (Variables.ofPairs replacedPairs).entries
    env.get? "CONFIG_DIR" = some "/a" ∧ env.getRaw? "CONFIG_DIR" = some [0x2F, 0xFF] ∧
    Utf8.decode? [0x2F, 0xFF] = none ∧ ¬env.ViewsAgree "CONFIG_DIR" ∧
    ((Bootstrap.run Bootstrap.sampleMachine [] env).run { files := .empty }).1 =
      .ok ⟨[], ⟨"litellm", [], "CONFIG_DIR", Utf8.encode "/a:/" ++ [0xFF]⟩⟩ ∧
    ((Bootstrap.run Bootstrap.sampleMachine [] handedOn).run { files := .empty }).1 =
      .ok ⟨[], ⟨"litellm", [], "CONFIG_DIR", Utf8.encode "/app/config:/" ++ [0xFF]⟩⟩ := by
  decide +kernel

end Environment

end Prelaunch
