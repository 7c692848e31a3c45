import Prelaunch.Proofs.ArtifactName
import Prelaunch.Proofs.Numeral
import Prelaunch.Proofs.Settings.Sparing
import Prelaunch.Proofs.Tunables
import Prelaunch.Proofs.Utf8.RoundTrip

/-!
Overrides of settings that are texts. The text of a variable is read as a truth value, an integer or
a number where it can be, and is printed again where a text is asked for. So a setting has the text
of its variable only if the text is not read as any of these, or is what would be printed for it. A
variable of the deployment gives its text as it is.
-/

namespace Prelaunch

open Settings

/-! Reading and printing. -/

namespace Settings

/-- The value as it is printed where a text is asked for. -/
def Scalar.printed : Scalar → String
  | .nothing => ""
  | .boolean b => truthWord b
  | .integer n => toString n
  | .double x => x.text
  | .text s => s

namespace Override

variable {v : String} {s s' : Scalar}

/-- The text is read as nothing but a text, or is just what is printed for what it is read as. -/
inductive IsVerbatim (v : String) : Prop where
  | truth (b : Bool) (h : v = truthWord b)
  | integer {n : Int} (h : Reads v (.integer n)) (hplain : Integer.IsPlain v)
  | double {x : Double} (h : Reads v (.double x)) (htext : x.text = v)
  | text (h : Reads v (.text v))

theorem Reads.printed_eq_iff (h : Reads v s) : s.printed = v ↔ IsVerbatim v := by
  constructor
  · intro hprinted
    cases h with
    | truth htruth => exact .truth _ hprinted.symm
    | integer htruth hinteger =>
        refine .integer (.integer htruth hinteger) ?_
        exact (Integer.toString_eq_iff (Option.filter_eq_some_iff.1 hinteger).1).1 hprinted
    | double htruth hinteger hdouble => exact .double (.double htruth hinteger hdouble) hprinted
    | text htruth hinteger hdouble => exact .text (.text htruth hinteger hdouble)
  · intro hverbatim
    have unique {s' : Scalar} (h' : Reads v s') : s = s' :=
      (reads_iff.1 h).symm.trans (reads_iff.1 h')
    cases hverbatim with
    | truth b hb =>
        obtain rfl := unique (.truth (b := b) (by rw [hb]; cases b <;> decide +kernel))
        exact hb.symm
    | integer hread hplain =>
        obtain rfl := unique hread
        cases hread with
        | integer htruth hinteger =>
            exact (Integer.toString_eq_iff (Option.filter_eq_some_iff.1 hinteger).1).2 hplain
    | double hread htext =>
        obtain rfl := unique hread
        exact htext
    | text hread =>
        obtain rfl := unique hread
        rfl

theorem isVerbatim_of_mem {v : String} {c : Char} (hc : c ∈ v.toList)
    (hnumber : ¬Numeral.IsNumberChar c) (hsigma : c ≠ 'Σ') (hlower : Text.lowerChar c = [c]) :
    IsVerbatim v := by
  have htruth (b : Bool) : Text.lowercase v ≠ truthWord b := by
    intro hword
    have hmem : c ∈ (truthWord b).toList := by
      rw [← hword]
      exact Text.mem_lowercase_of_mem hc hsigma hlower
    have hall : (truthWord b).toList.all Char.isAlphanum = true := by
      cases b <;> decide
    exact hnumber (.inl (List.all_eq_true.1 hall c hmem))
  have hinteger : Integer.signed64OfText? v = none := by
    rw [Option.eq_none_iff_forall_ne_some]
    intro n hn
    have hsome := (Option.filter_eq_some_iff.1 hn).1
    exact hnumber (Integer.isNumberChar_of_ofText? (Option.isSome_of_eq_some hsome) hc)
  have hdouble : Double.ofText? v = none := by
    rw [Option.eq_none_iff_forall_ne_some]
    intro x hx
    exact hnumber (Double.isNumberChar_of_ofText? (Option.isSome_of_eq_some hx) hc)
  exact .text (.text htruth hinteger hdouble)

/-- A path of more than one name and a URL are given as they are. -/
theorem isVerbatim_of_slash {v : String} (h : '/' ∈ v.toList) :
    IsVerbatim v :=
  isVerbatim_of_mem h (by unfold Numeral.IsNumberChar; decide) (by decide) (by decide +kernel)

end Override

end Settings

/-! Settings that are texts. -/

namespace Tunable

/-- How a setting is made of a text, if it is one. -/
def ofText? : (t : Tunable) → Option (String → t.Value)
  | configDir => some Path.ofText
  | entrypoint | modulePathVar | userAgent | authUrl => some id
  | connectTimeout | requestTimeout | maxRedirects => none

variable {t : Tunable} {ofText : String → t.Value}

theorem ofText_injective (ht : t.ofText? = some ofText) : Function.Injective ofText := by
  cases t with
  | configDir =>
      obtain rfl := Option.some.inj ht
      intro a b h
      exact Utf8.encode_inj.1 (congrArg Path.bytes h)
  | entrypoint | modulePathVar | userAgent | authUrl =>
      obtain rfl := Option.some.inj ht
      exact fun a b h => h
  | connectTimeout | requestTimeout | maxRedirects => cases ht

theorem decode_override (ht : t.ofText? = some ofText) (v : String) :
    t.decode (t.named (.scalar (some .environment) (Override.scalar v))) =
      .ok (ofText (Override.scalar v).printed) := by
  have htext : (t.named (.scalar (some .environment) (Override.scalar v))).text =
      .ok (Override.scalar v).printed := by
    have hread : Override.Reads v (Override.scalar v) := Override.reads_iff.2 rfl
    generalize Override.scalar v = s at hread ⊢
    cases hread <;> rfl
  cases t with
  | configDir =>
      obtain rfl := Option.some.inj ht
      show Except.map Path.ofText _ = _
      rw [htext]
      rfl
  | entrypoint | modulePathVar | userAgent | authUrl =>
      obtain rfl := Option.some.inj ht
      exact htext
  | connectTimeout | requestTimeout | maxRedirects => cases ht

end Tunable

namespace Config

variable {m : Machine} {env : Environment} {p : Progress} {c : Config}

theorem ofConfig_of_load_tunable (h : ((load m env).run p).1 = .ok c) (t : Tunable) :
    ∃ file c₀, ofSources m.order file env = .ok c₀ ∧
      t.ofConfig c = (t.deployed? env).getD (t.ofConfig c₀) := by
  obtain ⟨c₀, hread, rfl, -⟩ := load_eq_ok_iff.1 h
  obtain ⟨file, -, hsources⟩ := bind_eq_ok.1 hread
  exact ⟨file, c₀, hsources, ofConfig_deployed_tunable c₀ env t⟩

end Config

variable {m : Machine} {env : Environment} {p : Progress} {c : Config} {v : String}

/-- A setting that is a text has from its override what is printed for that which the text of the
variable is read as. This is the text itself exactly if it is verbatim, as a path of more than one
name and a URL are. And only then it is what a variable of the deployment with the same text would
give. -/
theorem text_overrides_are_read_and_printed {t : Tunable} {ofText : String → t.Value}
    (ht : t.ofText? = some ofText) (hset : Override.SetsAlone env t.group t.key v)
    (hdeployed : t.deployed? env = none) (hload : ((Config.load m env).run p).1 = .ok c) :
    ∃ s, Override.Reads v s ∧ t.ofConfig c = ofText s.printed ∧
      (t.ofConfig c = ofText v ↔ Override.IsVerbatim v) ∧
      ('/' ∈ v.toList → t.ofConfig c = ofText v) ∧
      ∀ m' env' p' c', t.deployed? env' = some (ofText v) →
        ((Config.load m' env').run p').1 = .ok c' →
        (t.ofConfig c = t.ofConfig c' ↔ Override.IsVerbatim v) := by
  obtain ⟨file, c₀, hsources, hvalue⟩ := Config.ofConfig_of_load_tunable hload t
  have hholds := hset.holds t.group_mem t.isPlainKey_key m.order (m.order.entries .file file)
  have hprinted : t.ofConfig c = ofText (Override.scalar v).printed := by
    have hdecode := Config.decodeIn_of_ofTree hsources t hholds.isTable
    unfold Tunable.decodeIn at hdecode
    rw [show _ = some _ from hholds] at hdecode
    rw [hvalue, hdeployed, Option.getD_none]
    exact (Except.ok.inj ((Tunable.decode_override ht v).symm.trans hdecode)).symm
  have hreads : Override.Reads v (Override.scalar v) := Override.reads_iff.2 rfl
  have hverbatim : t.ofConfig c = ofText v ↔ Override.IsVerbatim v := by
    rw [hprinted, (Tunable.ofText_injective ht).eq_iff, hreads.printed_eq_iff]
  have hslash (h : '/' ∈ v.toList) : t.ofConfig c = ofText v :=
    hverbatim.2 (Override.isVerbatim_of_slash h)
  refine ⟨_, hreads, hprinted, hverbatim, hslash, fun m' env' p' c' hdeployed' hload' => ?_⟩
  obtain ⟨file', c₀', -, hvalue'⟩ := Config.ofConfig_of_load_tunable hload' t
  rw [hvalue', hdeployed', Option.getD_some, hverbatim]

/-! A directory named like a number, from its override and from the variable of the deployment. -/

def numberedOverride : Environment :=
  .ofPairs [(Utf8.encode "BOOTFETCH__BOOTSTRAP__CONFIG_DIR", Utf8.encode "1.0")]

def numberedVariable : Environment :=
  .ofPairs [(Utf8.encode "CONFIG_DIR", Utf8.encode "1.0")]

theorem setsAlone_numberedOverride :
    Override.SetsAlone numberedOverride "bootstrap" "config_dir" "1.0" := by
  refine ⟨"BOOTFETCH__BOOTSTRAP__CONFIG_DIR", by decide +kernel, by decide +kernel, ?_⟩
  intro other text path hget _ hother
  have hmem := Environment.mem_toList.2 hget
  rw [show numberedOverride.toList = [("BOOTFETCH__BOOTSTRAP__CONFIG_DIR", "1.0")] by
    decide +kernel] at hmem
  exact absurd (Prod.mk.inj (List.mem_singleton.1 hmem)).1 hother

theorem text_overrides_are_read_and_printed_sample :
    ∃ c c', ((Config.load Bootstrap.sampleMachine numberedOverride).run { files := .empty }).1 =
        .ok c ∧
      ((Config.load Bootstrap.sampleMachine numberedVariable).run { files := .empty }).1 = .ok c' ∧
      c.bootstrap.configDir ≠ c'.bootstrap.configDir ∧ ¬Override.IsVerbatim "1.0" := by
  have hload : ((Config.load Bootstrap.sampleMachine numberedOverride).run
      { files := .empty }).1 = .ok { bootstrap := { configDir := .ofText "1" } } := by
    decide +kernel
  have hload' : ((Config.load Bootstrap.sampleMachine numberedVariable).run
      { files := .empty }).1 = .ok { bootstrap := { configDir := .ofText "1.0" } } := by
    decide +kernel
  have htext : Tunable.ofText? .configDir = some Path.ofText := rfl
  obtain ⟨-, -, -, -, -, hsame⟩ := text_overrides_are_read_and_printed htext
    setsAlone_numberedOverride (by decide +kernel) hload
  have hdifferent : Path.ofText "1" ≠ Path.ofText "1.0" := by
    decide +kernel
  refine ⟨_, _, hload, hload', hdifferent, fun hverbatim => hdifferent ?_⟩
  exact (hsame _ _ _ _ (by decide +kernel) hload').2 hverbatim

/-- A text that looks like a number is not what its override gives, nor is a word for a truth value
with a capital. -/
theorem overrides_change_texts :
    (∃ c, ((Config.load Bootstrap.sampleMachine numberedOverride).run { files := .empty }).1 =
        .ok c ∧ c.bootstrap.configDir = .ofText "1") ∧
      ∃ c, ((Config.load Bootstrap.sampleMachine
          (.ofPairs [(Utf8.encode "BOOTFETCH__HTTP__USER_AGENT", Utf8.encode "True")])).run
            { files := .empty }).1 = .ok c ∧ c.http.userAgent = "true" := by
  refine ⟨⟨{ bootstrap := { configDir := .ofText "1" } }, ?_, rfl⟩,
    { http := { userAgent := "true" } }, ?_, rfl⟩
  · decide +kernel
  · decide +kernel

end Prelaunch
