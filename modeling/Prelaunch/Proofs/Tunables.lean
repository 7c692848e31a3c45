import Prelaunch.Proofs.Settings.Plain
import Prelaunch.Proofs.Settings.Tunable
import Prelaunch.Proofs.Settled
import Prelaunch.Proofs.VariableUse

/-!
The layers of the settings that a file may give. Each has a place in the file, a variable that
overrides it and a default, two have a variable of the deployment as well, and the highest of these
layers that sets it decides. No layer of one setting has a say in another.
-/

namespace Prelaunch

open Settings

namespace Tunable

/-! The layers. -/

/-- What a variable of the deployment gives. -/
def deployed? (env : Environment) : (t : Tunable) → Option t.Value
  | configDir => (env.nonEmpty? "CONFIG_DIR").map Path.ofText
  | authUrl => env.nonEmpty? "BACKBLAZE_AUTH_URL"
  | entrypoint | modulePathVar | connectTimeout | requestTimeout | maxRedirects | userAgent => none

/-- A variable has the name that overrides the setting, in any letter case. -/
def IsOverriddenBy (t : Tunable) (name : String) : Prop :=
  Text.lowercase name = Override.nameOf t.group t.key

/-- The value of the highest layer that sets it below the deployment. -/
inductive Resolves (file : Source) (env : Environment) (t : Tunable) : t.Value → Prop where
  | overridden {name text s v} (hname : t.IsOverriddenBy name) (hget : env.get? name = some text)
      (hread : Override.Reads text s) (hdecode : t.Decodes s v) : Resolves file env t v
  | inFile {origin s v} (hplain : ∀ name, t.IsOverriddenBy name → env.get? name = none)
      (hfile : file.setting? t.group t.key = some (.scalar origin s)) (hdecode : t.Decodes s v) :
      Resolves file env t v
  | standard (hplain : ∀ name, t.IsOverriddenBy name → env.get? name = none)
      (hfile : file.setting? t.group t.key = none) : Resolves file env t t.standard

/-- The value of the highest layer that sets it. -/
inductive Prevails (file : Source) (env : Environment) (t : Tunable) : t.Value → Prop where
  | deployed {v} (h : t.deployed? env = some v) : Prevails file env t v
  | resolved {v} (hnone : t.deployed? env = none) (h : t.Resolves file env v) :
      Prevails file env t v

/-- The layers of one setting are the same for two files and environments. -/
structure SameLayers (file file' : Source) (env env' : Environment) (t : Tunable) : Prop where
  deployed : t.deployed? env = t.deployed? env'
  overridden : Override.setting? env t.group t.key = Override.setting? env' t.group t.key
  inFile : file.setting? t.group t.key = file'.setting? t.group t.key

/-! What a plain file and plain overrides give. -/

theorem group_mem (t : Tunable) : t.group ∈ groups := by
  cases t <;> decide

theorem isPlainKey_key (t : Tunable) : Override.IsPlainKey t.key := by
  constructor <;> cases t <;> decide +kernel

/-- What the file and the overrides give for a setting, decoded. -/
def resolved (file : Source) (env : Environment) (t : Tunable) : Except LoadError t.Value :=
  match (Override.setting? env t.group t.key).or (file.setting? t.group t.key) with
  | some tree => t.decode (t.named tree)
  | none => .ok t.standard

variable {file file' : Source} {env env' : Environment} {t : Tunable} {v : t.Value}

theorem SameLayers.resolved_eq (h : SameLayers file file' env env' t) :
    t.resolved file env = t.resolved file' env' := by
  unfold resolved
  rw [h.overridden, h.inFile]

theorem setting?_eq_none (henv : Override.ArePlain env) :
    Override.setting? env t.group t.key = none ↔
      ∀ name, t.IsOverriddenBy name → env.get? name = none := by
  have hsetting {tree : Tree} := henv.setting?_eq_some t.group_mem t.isPlainKey_key (t := tree)
  constructor
  · intro hnone name hname
    rw [Option.eq_none_iff_forall_ne_some]
    intro text hget
    have hsome := hsetting.2 ⟨name, text, hget, hname, rfl⟩
    rw [hnone] at hsome
    cases hsome
  · intro hplain
    rw [Option.eq_none_iff_forall_ne_some]
    intro tree htree
    obtain ⟨name, text, hget, hname, -⟩ := hsetting.1 htree
    rw [hplain name hname] at hget
    cases hget

theorem resolves_iff (henv : Override.ArePlain env) :
    t.Resolves file env v ↔ t.resolved file env = .ok v := by
  have hsetting {tree : Tree} := henv.setting?_eq_some t.group_mem t.isPlainKey_key (t := tree)
  unfold resolved
  constructor
  · intro h
    cases h with
    | overridden hname hget hread hdecode =>
        rw [hsetting.2 ⟨_, _, hget, hname, rfl⟩, Option.some_or]
        exact decode_eq_ok_iff.2 ⟨_, _, rfl, Override.reads_iff.1 hread ▸ hdecode⟩
    | inFile hplain hfile hdecode =>
        rw [(setting?_eq_none henv).2 hplain, Option.none_or, hfile]
        exact decode_eq_ok_iff.2 ⟨_, _, rfl, hdecode⟩
    | standard hplain hfile => rw [(setting?_eq_none henv).2 hplain, Option.none_or, hfile]
  · intro h
    cases hoverride : Override.setting? env t.group t.key with
    | some tree =>
        obtain ⟨name, text, hget, hname, rfl⟩ := hsetting.1 hoverride
        rw [hoverride, Option.some_or] at h
        obtain ⟨origin, s, hs, hdecode⟩ := decode_eq_ok_iff.1 h
        obtain ⟨-, rfl⟩ := Tree.scalar.inj hs
        exact .overridden hname hget (Override.reads_iff.2 rfl) hdecode
    | none =>
        have hplain := (setting?_eq_none henv).1 hoverride
        rw [hoverride, Option.none_or] at h
        cases hfile : file.setting? t.group t.key with
        | some tree =>
            rw [hfile] at h
            obtain ⟨origin, s, rfl, hdecode⟩ := decode_eq_ok_iff.1 h
            exact .inFile hplain hfile hdecode
        | none =>
            rw [hfile] at h
            exact Except.ok.inj h ▸ .standard hplain hfile

end Tunable

/-! Settings from plain sources. -/

namespace Config

variable {file : Source} {env : Environment} {o : HashOrder} {c : Config}

theorem represents_join (hfile : file.IsPlain) (henv : Override.ArePlain env) (o : HashOrder)
    {group : String} (hgroup : group ∈ groups) :
    Represents group (join [o.entries .file file, Override.source o env])
      ((o.entries .file file).flatMap (assigned group) ++
        (Override.source o env).flatMap (assigned group)) :=
  .join ((hfile.entries o .file).isRegular hgroup) (henv.isRegular hgroup)

/-- The overrides are laid over the file, in whatever order their entries come. -/
theorem decodeIn_join (hfile : file.IsPlain) (henv : Override.ArePlain env) (o : HashOrder)
    (t : Tunable) :
    t.decodeIn (join [o.entries .file file, Override.source o env]) = t.resolved file env := by
  have hseen := (represents_join hfile henv o t.group_mem).seen t.key
  have hlast : Tree.last? ((o.entries .file file).flatMap (assigned t.group) ++
      (Override.source o env).flatMap (assigned t.group)) t.key =
        (Override.setting? env t.group t.key).or (file.setting? t.group t.key) := by
    rw [Tree.last?_append, henv.last?_eq t.group_mem t.isPlainKey_key,
      (hfile.entries o .file).flatMap_assigned]
    exact congrArg _ (Source.setting?_entries o .file file t.group t.key)
  rw [hlast] at hseen
  unfold Tunable.decodeIn Tunable.resolved
  generalize (Override.setting? env t.group t.key).or _ = given at hseen ⊢
  generalize Option.bind _ _ = found at hseen ⊢
  cases given <;> cases found <;> try cases hseen
  · rfl
  · -- trees that are seen alike are decoded alike
    exact t.readsSeen_decode _ _ _ (Option.some.inj hseen)

/-- Settings are read of plain sources exactly if each of them is resolved so. -/
theorem ofSources_eq_ok_iff (hfile : file.IsPlain) (henv : Override.ArePlain env) :
    ofSources o file env = .ok c ↔
      (∀ t : Tunable, t.resolved file env = .ok (t.ofConfig c)) ∧ Secrets.ofConfig c = {} := by
  unfold ofSources
  rw [ofTree_eq_ok_iff fun name hname => (represents_join hfile henv o hname).isTable]
  simp only [decodeIn_join hfile henv]

theorem ofConfig_deployed_tunable (c : Config) (env : Environment) (t : Tunable) :
    t.ofConfig (c.deployed env) = (t.deployed? env).getD (t.ofConfig c) := by
  cases t <;> rfl

/-! Loading. -/

variable {m : Machine} {p : Progress}

theorem run_tellSource (path : Path) (isThere : Bool) (p : Progress) :
    ∃ told, (tellSource path isThere).run p = (.ok (), { p with events := told }) := by
  unfold tellSource
  split <;> exact ⟨_, rfl⟩

/-- Settings are loaded exactly if they are read, and no check of them fails. -/
theorem load_eq_ok_iff : ((load m env).run p).1 = .ok c ↔
    ∃ c₀, settingsAt m p.files (pathFrom env) env = .ok c₀ ∧ c = c₀.deployed env ∧
      c.validate = .ok () := by
  obtain ⟨told, htold⟩ :=
    run_tellSource (pathFrom env) (p.files.doesExist m.workingDir (pathFrom env)) p
  unfold load
  rw [Action.run_bind, run_readSources, Action.run_bind_of_ok htold]
  cases hread : settingsAt m p.files (pathFrom env) env with
  | error e =>
      constructor
      · rintro ⟨⟩
      · rintro ⟨c₀, ⟨⟩, -⟩
  | ok c₀ =>
      show ((checked (c₀.deployed env)).run _).1 = _ ↔ _
      constructor
      · intro h
        obtain rfl := run_checked_eq_ok h
        refine ⟨c₀, rfl, rfl, ?_⟩
        unfold checked at h
        cases hvalid : (c₀.deployed env).validate with
        | error e =>
            rw [hvalid] at h
            cases h
        | ok => rfl
      · rintro ⟨c₁, hc₁, rfl, hvalid⟩
        obtain rfl := Except.ok.inj hc₁
        unfold checked
        rw [hvalid]
        rfl

end Config

/-- A run reads a plain file, or none, and all overrides of its sections are plain. -/
structure PlainSources (m : Machine) (env : Environment) (p : Progress) (file : Source) : Prop where
  read : Config.sourceAt m p.files (Config.pathFrom env) = .ok file
  file : file.IsPlain
  overrides : Override.ArePlain env

namespace PlainSources

variable {m : Machine} {env : Environment} {p : Progress} {file : Source} {c : Config}

theorem settingsAt_eq_ok_iff (h : PlainSources m env p file) :
    Config.settingsAt m p.files (Config.pathFrom env) env = .ok c ↔
      (∀ t : Tunable, t.resolved file env = .ok (t.ofConfig c)) ∧ Secrets.ofConfig c = {} := by
  unfold Config.settingsAt
  rw [h.read]
  exact Config.ofSources_eq_ok_iff h.file h.overrides

/-- Of plain sources that can be read, the same is read in every order of hash tables. -/
theorem isReadAlike (h : PlainSources m env p file)
    (hread : Config.settingsAt m p.files (Config.pathFrom env) env = .ok c) {o : HashOrder}
    (hsource : Config.sourceAt (m.ordered o) p.files (Config.pathFrom env) = .ok file) :
    Config.IsReadAlike m o p.files (Config.pathFrom env) env := by
  have hother : PlainSources (m.ordered o) env p file := ⟨hsource, h.file, h.overrides⟩
  unfold Config.IsReadAlike
  rw [hread, hother.settingsAt_eq_ok_iff, ← h.settingsAt_eq_ok_iff, hread]

/-- Loaded settings are those that are resolved, with the deployment over them. -/
theorem load_eq_ok_iff (h : PlainSources m env p file) :
    ((Config.load m env).run p).1 = .ok c ↔
      (∀ t : Tunable, ∃ v, t.Resolves file env v ∧ t.ofConfig c = (t.deployed? env).getD v) ∧
        Secrets.ofConfig c = Secrets.ofEnvironment env ∧ c.validate = .ok () := by
  rw [Config.load_eq_ok_iff]
  constructor
  · rintro ⟨c₀, hread, rfl, hvalid⟩
    obtain ⟨hresolved, -⟩ := h.settingsAt_eq_ok_iff.1 hread
    refine ⟨fun t => ⟨t.ofConfig c₀, (Tunable.resolves_iff h.overrides).2 (hresolved t), ?_⟩,
      Config.ofConfig_deployed c₀ env, hvalid⟩
    exact Config.ofConfig_deployed_tunable c₀ env t
  · rintro ⟨hvalues, hsecrets, hvalid⟩
    choose value hresolves hvalue using hvalues
    obtain ⟨c₀, hc₀⟩ := Config.exists_of_tunables value
    obtain ⟨htunables, hnone⟩ := hc₀
    refine ⟨c₀, h.settingsAt_eq_ok_iff.2 ⟨fun t => ?_, hnone⟩, ?_, hvalid⟩
    · rw [htunables]
      exact (Tunable.resolves_iff h.overrides).1 (hresolves t)
    · refine Config.eq_of_tunables (fun t => ?_) (by rw [hsecrets, Config.ofConfig_deployed])
      rw [hvalue, Config.ofConfig_deployed_tunable, htunables]

theorem prevails (h : PlainSources m env p file) (hload : ((Config.load m env).run p).1 = .ok c)
    (t : Tunable) : t.Prevails file env (t.ofConfig c) := by
  obtain ⟨v, hresolves, hvalue⟩ := (h.load_eq_ok_iff.1 hload).1 t
  rw [hvalue]
  cases hdeployed : t.deployed? env with
  | some v' => exact .deployed hdeployed
  | none => exact .resolved hdeployed hresolves

section TwoRuns

variable {m' : Machine} {env' : Environment} {p' : Progress} {file' : Source} {c' : Config}

theorem resolves_congr (h : PlainSources m env p file) (h' : PlainSources m' env' p' file')
    {t : Tunable} (hsame : t.SameLayers file file' env env') {v : t.Value} :
    t.Resolves file env v ↔ t.Resolves file' env' v := by
  rw [Tunable.resolves_iff h.overrides, Tunable.resolves_iff h'.overrides, hsame.resolved_eq]

theorem ofConfig_eq (h : PlainSources m env p file) (h' : PlainSources m' env' p' file')
    (hload : ((Config.load m env).run p).1 = .ok c)
    (hload' : ((Config.load m' env').run p').1 = .ok c') {t : Tunable}
    (hsame : t.SameLayers file file' env env') : t.ofConfig c = t.ofConfig c' := by
  obtain ⟨v, hresolves, hvalue⟩ := (h.load_eq_ok_iff.1 hload).1 t
  obtain ⟨v', hresolves', hvalue'⟩ := (h'.load_eq_ok_iff.1 hload').1 t
  have hboth : v = v' := by
    have hresolved := (Tunable.resolves_iff h'.overrides).1 ((h.resolves_congr h' hsame).1 hresolves)
    exact Except.ok.inj (hresolved.symm.trans ((Tunable.resolves_iff h'.overrides).1 hresolves'))
  rw [hvalue, hvalue', hsame.deployed, hboth]

/-- Nothing but the tunables and the secrets is looked at. -/
theorem load_congr (h : PlainSources m env p file) (h' : PlainSources m' env' p' file')
    (hsame : ∀ t : Tunable, t.SameLayers file file' env env')
    (hsecrets : Secrets.ofEnvironment env = Secrets.ofEnvironment env') :
    ((Config.load m env).run p).1 = .ok c ↔ ((Config.load m' env').run p').1 = .ok c := by
  rw [h.load_eq_ok_iff, h'.load_eq_ok_iff, hsecrets]
  simp only [h.resolves_congr h' (hsame _), (hsame _).deployed]

end TwoRuns

end PlainSources

/-- Settings are loaded of plain sources exactly if each of those that a file may give has the value
of the highest layer that sets it, the layers below the deployment giving one in any case, and if the
secrets are those of the environment and no check fails. Two runs for which the layers of one setting
are the same have the same value for it, whatever else is set. And if the layers of all settings and
the secrets are the same, the same settings are loaded, so that sections and keys that are none of
these have no influence. All this holds for any order of hash tables. -/
theorem tunables_have_prevailing_values (m : Machine) (env : Environment) (p : Progress)
    (file : Source) (h : PlainSources m env p file) :
    (∀ c, ((Config.load m env).run p).1 = .ok c →
      ∀ t : Tunable, t.Prevails file env (t.ofConfig c)) ∧
    (∀ c, ((Config.load m env).run p).1 = .ok c ↔
      (∀ t : Tunable, ∃ v, t.Resolves file env v ∧ t.ofConfig c = (t.deployed? env).getD v) ∧
        Secrets.ofConfig c = Secrets.ofEnvironment env ∧ c.validate = .ok ()) ∧
    ∀ m' env' p' file', PlainSources m' env' p' file' →
      (∀ c c', ((Config.load m env).run p).1 = .ok c → ((Config.load m' env').run p').1 = .ok c' →
        ∀ t : Tunable, t.SameLayers file file' env env' → t.ofConfig c = t.ofConfig c') ∧
      ((∀ t : Tunable, t.SameLayers file file' env env') →
        Secrets.ofEnvironment env = Secrets.ofEnvironment env' →
        ∀ c, ((Config.load m env).run p).1 = .ok c ↔ ((Config.load m' env').run p').1 = .ok c) := by
  refine ⟨fun _ hload t => h.prevails hload t, fun _ => h.load_eq_ok_iff,
    fun _ _ _ _ h' => ⟨fun _ _ hload hload' _ hsame => h.ofConfig_eq h' hload hload' hsame, ?_⟩⟩
  exact fun hsame hsecrets _ => h.load_congr h' hsame hsecrets

/-! A file that sets three settings, an override of one of them, and a variable of the deployment. -/

namespace Tunable

def sampleStart : Progress :=
  Secrets.withFile "bootfetch.toml"
    "[http]\nconnect_timeout_secs = 5\nrequest_timeout_secs = 2.5\nuser_agent = \"a\"\n"

def sampleEnvironment : Environment :=
  .ofPairs [(Utf8.encode "BACKBLAZE_AUTH_URL", Utf8.encode "http://d/"),
    (Utf8.encode "BOOTFETCH__Http__User_Agent", Utf8.encode "b")]

theorem toList_sampleEnvironment : sampleEnvironment.toList =
    [("BACKBLAZE_AUTH_URL", "http://d/"), ("BOOTFETCH__Http__User_Agent", "b")] := by
  decide +kernel

theorem mem_sampleEnvironment {name text : String} (h : sampleEnvironment.get? name = some text) :
    name = "BACKBLAZE_AUTH_URL" ∨ name = "BOOTFETCH__Http__User_Agent" := by
  have hmem := Environment.mem_toList.2 h
  rw [toList_sampleEnvironment] at hmem
  simp only [List.mem_cons, Prod.mk.injEq, List.not_mem_nil, or_false] at hmem
  exact hmem.imp And.left And.left

theorem path?_authUrl : Override.path? "BACKBLAZE_AUTH_URL" = none :=
  Override.path?_eq_none_of_isDeploymentName (.inl (by decide))

theorem arePlain_sampleEnvironment : Override.ArePlain sampleEnvironment where
  form := by
    intro name text path hget hpath _
    obtain rfl | rfl := mem_sampleEnvironment hget
    · rw [path?_authUrl] at hpath
      cases hpath
    · exact ⟨"http", by decide, "user_agent", userAgent.isPlainKey_key, by decide +kernel⟩
  unique := by
    intro group hgroup key hkey name name' text text' hget hget' hname hname'
    have honly {name text : String} (hget : sampleEnvironment.get? name = some text)
        (hname : Text.lowercase name = Override.nameOf group key) :
        name = "BOOTFETCH__Http__User_Agent" := by
      obtain rfl | rfl := mem_sampleEnvironment hget
      · obtain ⟨path, hpath, -⟩ := Override.parse_of_lowercase_eq hgroup hkey hname
        rw [path?_authUrl] at hpath
        cases hpath
      · rfl
    rw [honly hget hname, honly hget' hname']

theorem exists_isPlain_sampleStart : ∃ file : Source,
    Config.sourceAt Bootstrap.sampleMachine sampleStart.files (.ofText "bootfetch.toml") = .ok file ∧
      file.IsPlain := by
  have hread : ∃ file ∈ (Config.sourceAt Bootstrap.sampleMachine sampleStart.files
      (.ofText "bootfetch.toml")).toOption, file.IsPlain := by
    decide +kernel
  generalize Config.sourceAt _ _ _ = result at hread
  obtain ⟨file, hfile, hplain⟩ := hread
  cases result with
  | error e => cases hfile
  | ok other =>
      obtain rfl := Option.some.inj hfile
      exact ⟨other, rfl, hplain⟩

end Tunable

theorem tunables_have_prevailing_values_sample :
    ∃ file, PlainSources Bootstrap.sampleMachine Tunable.sampleEnvironment Tunable.sampleStart file ∧
    ∃ c, ((Config.load Bootstrap.sampleMachine Tunable.sampleEnvironment).run
      Tunable.sampleStart).1 = .ok c ∧ c.http = ⟨5, some 3, 10, "b"⟩ ∧
      c.account.authUrl = "http://d/" ∧
      ∀ t : Tunable, t.Prevails file Tunable.sampleEnvironment (t.ofConfig c) := by
  have hpath : Config.pathFrom Tunable.sampleEnvironment = .ofText "bootfetch.toml" := by
    decide +kernel
  obtain ⟨file, hread, hfile⟩ := Tunable.exists_isPlain_sampleStart
  have hplain : PlainSources Bootstrap.sampleMachine Tunable.sampleEnvironment Tunable.sampleStart
      file :=
    ⟨by rw [hpath, hread], hfile, Tunable.arePlain_sampleEnvironment⟩
  have hload : ((Config.load Bootstrap.sampleMachine Tunable.sampleEnvironment).run
      Tunable.sampleStart).1 =
        .ok { http := ⟨5, some 3, 10, "b"⟩, account := { authUrl := "http://d/" } } := by
    decide +kernel
  exact ⟨file, hplain, _, hload, rfl, rfl,
    (tunables_have_prevailing_values _ _ _ _ hplain).1 _ hload⟩

end Prelaunch
