import Prelaunch.Proofs.Effects
import Prelaunch.Proofs.Environment
import Prelaunch.Proofs.Settings.Group

/-!
Where secrets come from. A tree of settings has no place for them, so whatever a settings file and
the overrides hold, the settings of a run have the secrets that the variables of the deployment
give, and settings that are read without these variables have none.
-/

namespace Prelaunch

/-! The first variable that is set. -/

/-- The value that a list of variables gives: the first of their texts that is not empty. -/
inductive Environment.Gives (env : Environment) : List String → Option String → Prop where
  | nothing {names} (hempty : ∀ name ∈ names, ∀ text, env.get? name = some text → text = "") :
      Gives env names none
  | first (earlier) {name later text}
      (hempty : ∀ name ∈ earlier, ∀ text, env.get? name = some text → text = "")
      (hget : env.get? name = some text) (hne : text ≠ "") :
      Gives env (earlier ++ name :: later) (some text)

namespace Environment

variable {env : Environment} {name : String} {names : List String}

theorem Gives.cons {value : Option String} (hempty : ∀ text, env.get? name = some text → text = "")
    (h : env.Gives names value) : env.Gives (name :: names) value := by
  cases h with
  | nothing hempty' => exact .nothing (List.forall_mem_cons.2 ⟨hempty, hempty'⟩)
  | first earlier hempty' hget hne =>
      exact .first (name :: earlier) (List.forall_mem_cons.2 ⟨hempty, hempty'⟩) hget hne

theorem gives_firstNonEmpty? (names : List String) :
    env.Gives names (env.firstNonEmpty? names) := by
  induction names with
  | nil => exact .nothing (by simp)
  | cons name names ih =>
      unfold firstNonEmpty? at ih ⊢
      rw [List.findSome?_cons]
      cases hset : env.nonEmpty? name with
      | none =>
          refine ih.cons ?_
          simpa [nonEmpty?] using hset
      | some text =>
          obtain ⟨hget, hne⟩ := Option.filter_eq_some_iff.1 hset
          exact .first [] (by simp) hget (by simpa using hne)

theorem nonEmpty?_eq_firstNonEmpty? : env.nonEmpty? name = env.firstNonEmpty? [name] := by
  simp [firstNonEmpty?]

end Environment

/-! Secrets. -/

/-- What no settings file may set: what proves who asks, and where the primary configuration is. -/
structure Secrets where
  authHeader : Option String := none
  primaryUrl : Option String := none
  keyId : Option String := none
  applicationKey : Option String := none
  deriving DecidableEq, Repr

namespace Secrets

def ofConfig (c : Config) : Secrets :=
  ⟨c.authHeader, c.primaryUrl, c.account.keyId, c.account.applicationKey⟩

def ofEnvironment (env : Environment) : Secrets where
  authHeader := env.firstNonEmpty? ["AUTH_HEADER"]
  primaryUrl := env.firstNonEmpty? ["LITELLM_CONFIG_URL"]
  keyId := env.firstNonEmpty? ["BACKBLAZE_KEY_ID", "B2_KEY_ID"]
  applicationKey := env.firstNonEmpty? ["BACKBLAZE_APPLICATION_KEY", "B2_APPLICATION_KEY"]

def variableNames : List String :=
  ["AUTH_HEADER", "LITELLM_CONFIG_URL", "BACKBLAZE_KEY_ID", "B2_KEY_ID",
    "BACKBLAZE_APPLICATION_KEY", "B2_APPLICATION_KEY"]

/-- Each secret is what its own variables give. -/
structure AreGiven (env : Environment) (s : Secrets) : Prop where
  authHeader : env.Gives ["AUTH_HEADER"] s.authHeader
  primaryUrl : env.Gives ["LITELLM_CONFIG_URL"] s.primaryUrl
  keyId : env.Gives ["BACKBLAZE_KEY_ID", "B2_KEY_ID"] s.keyId
  applicationKey :
    env.Gives ["BACKBLAZE_APPLICATION_KEY", "B2_APPLICATION_KEY"] s.applicationKey

theorem areGiven_ofEnvironment (env : Environment) : AreGiven env (ofEnvironment env) :=
  ⟨env.gives_firstNonEmpty? _, env.gives_firstNonEmpty? _, env.gives_firstNonEmpty? _,
    env.gives_firstNonEmpty? _⟩

theorem ofEnvironment_congr {env env' : Environment}
    (h : ∀ name ∈ variableNames, env.get? name = env'.get? name) :
    ofEnvironment env = ofEnvironment env' := by
  have hsome (names : List String) (hnames : names ⊆ variableNames) :
      env.firstNonEmpty? names = env'.firstNonEmpty? names :=
    Environment.firstNonEmpty?_congr fun name hname =>
      Environment.nonEmpty?_congr (h name (hnames hname))
  simp only [ofEnvironment, hsome _ (show ["AUTH_HEADER"] ⊆ variableNames by decide),
    hsome _ (show ["LITELLM_CONFIG_URL"] ⊆ variableNames by decide),
    hsome _ (show ["BACKBLAZE_KEY_ID", "B2_KEY_ID"] ⊆ variableNames by decide),
    hsome _ (show ["BACKBLAZE_APPLICATION_KEY", "B2_APPLICATION_KEY"] ⊆ variableNames by decide)]

end Secrets

/-! Loading. -/

namespace Config

variable {m : Machine} {path : Path} {env : Environment} {p : Progress} {c : Config}

theorem ofConfig_deployed (c : Config) (env : Environment) :
    Secrets.ofConfig (c.deployed env) = Secrets.ofEnvironment env := by
  simp only [Secrets.ofConfig, deployed, Secrets.ofEnvironment, CredentialHalf.variables,
    Environment.nonEmpty?_eq_firstNonEmpty?, Plan.primaryVariable]

theorem keys_of_readAccount {o : HashOrder} {t : Settings.Tree} {s : AccountSettings}
    (h : Settings.Group.read o "b2" "B2Config" accountFields {} t = .ok s) :
    s.keyId = none ∧ s.applicationKey = none := by
  refine Settings.Group.read_induction (P := fun s => s.keyId = none ∧ s.applicationKey = none) h
    ⟨rfl, rfl⟩ ?_
  intro f hf n s s' hs hread
  obtain rfl := List.mem_singleton.1 hf
  obtain ⟨url, -, rfl⟩ := Settings.Slot.read_of_eq_ok hread
  exact hs

/-- Whatever stands in a tree, none of it is read as a secret. -/
theorem ofConfig_of_ofTree {o : HashOrder} {root : Settings.Tree} (h : ofTree o root = .ok c) :
    Secrets.ofConfig c = {} := by
  refine Settings.Group.readInto_induction (P := fun c => Secrets.ofConfig c = {}) h rfl ?_
  rintro ⟨f, n⟩ hfound s s' hs hread
  have hf := (Settings.Group.mem_inTable.1 hfound).1
  simp only [groupFields, List.mem_cons, List.not_mem_nil, or_false] at hf
  rcases hf with rfl | rfl | rfl
  · obtain ⟨bootstrap, -, rfl⟩ := Settings.Slot.read_of_eq_ok hread
    exact hs
  · obtain ⟨http, -, rfl⟩ := Settings.Slot.read_of_eq_ok hread
    exact hs
  · -- the account is read anew, and what is read of one has no keys
    obtain ⟨account, haccount, rfl⟩ := Settings.Slot.read_of_eq_ok hread
    obtain ⟨hkeyId, hkey⟩ := keys_of_readAccount haccount
    obtain ⟨hheader, hprimary, -⟩ := Secrets.mk.inj hs
    simp [Secrets.ofConfig, hkeyId, hkey, hheader, hprimary]

/-- The settings of a run come from some file and the overrides. -/
theorem run_readSources_eq_ok (h : ((readSources m path env).run p).1 = .ok c) :
    ∃ file, ofSources m.order file env = .ok c := by
  unfold readSources at h
  obtain ⟨files, q, -, h⟩ := Action.run_bind_eq_ok h
  obtain ⟨-, q, -, h⟩ := Action.run_bind_eq_ok h
  have hsettings : settingsAt m files path env = .ok c := Action.run_orFail_eq_ok h
  obtain ⟨file, -, hsources⟩ := bind_eq_ok.1 hsettings
  exact ⟨file, hsources⟩

theorem run_checked_eq_ok {c' : Config} (h : ((checked c).run p).1 = .ok c') : c = c' := by
  unfold checked at h
  obtain ⟨-, q, -, h⟩ := Action.run_bind_eq_ok h
  exact Except.ok.inj h

/-- Settings that have been loaded have the secrets of the environment and no others. -/
theorem ofConfig_of_load (h : ((load m env).run p).1 = .ok c) :
    Secrets.ofConfig c = Secrets.ofEnvironment env := by
  unfold load at h
  obtain ⟨c₀, q, -, h⟩ := Action.run_bind_eq_ok h
  rw [← run_checked_eq_ok h, ofConfig_deployed]

theorem ofConfig_of_loadFrom (h : ((loadFrom m path env).run p).1 = .ok c) :
    Secrets.ofConfig c = {} := by
  unfold loadFrom at h
  obtain ⟨c₀, q, hread, h⟩ := Action.run_bind_eq_ok h
  obtain ⟨file, hfile⟩ := run_readSources_eq_ok (congrArg Prod.fst hread)
  rw [← run_checked_eq_ok h, ofConfig_of_ofTree hfile]

end Config

/-! A run without secrets. -/

namespace Bootstrap

variable {c : Config} {env₀ : Environment} {start : Progress} {b : Bootstrap}

/-- Without secrets the provider is not asked, and all downloads go out as they are. -/
theorem sent_of_no_secrets (hmake : ((make c env₀).run start).1 = .ok b)
    (hsecrets : Secrets.ofConfig c = {}) (m : Machine) (args : List Bytes) (env : Environment)
    (p : Progress) : ∃ attempted, attempted <+: b.artifacts ∧
      ((b.prepare m args env).run p).2.sent =
        p.sent ++ attempted.flatMap fun r => (b.client.get m.network r.url []).sent := by
  have hbuilt := isBuilt_of_make hmake
  obtain rfl := hbuilt.config
  obtain ⟨hheader, -, hkeyId, -⟩ : b.config.authHeader = none ∧ b.config.primaryUrl = none ∧
      b.config.account.keyId = none ∧ b.config.account.applicationKey = none := by
    simpa [Secrets.ofConfig] using hsecrets
  have hkeys : b.config.account.credentials? = none := by
    simp [AccountSettings.credentials?, hkeyId]
  have hexplicit : b.explicitHeader = none := by
    simpa [Config.explicitHeader, hheader, eq_comm] using hbuilt.header
  obtain ⟨result, after, hrun, hstages⟩ := b.stages m args env p
  rw [hrun]
  cases hstages with
  | unusable => exact ⟨[], List.nil_prefix, by simp⟩
  | refused hdir hrefused =>
      obtain ⟨_, _, hsome⟩ := b.credentials_of_provided_error hrefused
      rw [hkeys] at hsome
      cases hsome
  | @provided t provider written failure after hdir hprovided hdownloads hsent =>
      obtain rfl : none = provider := by simpa [provided, hkeys] using hprovided
      refine ⟨b.artifacts.take (written.length + 1), List.take_prefix _ _, ?_⟩
      rw [hsent, b.asked_of_credentials_none hkeys, List.append_nil]
      simp [ArtifactRequest.exchange, Broker.choose, AuthChoice.header?, hexplicit]

end Bootstrap

/-- Of all that a run reads, its secrets depend on their own variables alone, each being the first
of these that is set: runs for which these variables are the same have the same secrets, whatever
their settings files and overrides are. Settings from a file and overrides alone have none, so a run
with them sends nothing but bare downloads. -/
theorem secrets_come_from_variables :
    (∀ m env p c, ((Config.load m env).run p).1 = .ok c →
      Secrets.AreGiven env (Secrets.ofConfig c)) ∧
    (∀ m env p c m' env' p' c', ((Config.load m env).run p).1 = .ok c →
      ((Config.load m' env').run p').1 = .ok c' →
      (∀ name ∈ Secrets.variableNames, env.get? name = env'.get? name) →
      Secrets.ofConfig c = Secrets.ofConfig c') ∧
    ∀ m path env p c, ((Config.loadFrom m path env).run p).1 = .ok c →
      Secrets.ofConfig c = {} ∧
      ∀ env₀ start b, ((Bootstrap.make c env₀).run start).1 = .ok b → ∀ m' args env' p',
        ∃ attempted, attempted <+: b.artifacts ∧
          ((b.prepare m' args env').run p').2.sent =
            p'.sent ++ attempted.flatMap fun r => (b.client.get m'.network r.url []).sent := by
  refine ⟨?_, ?_, ?_⟩
  · intro m env p c hload
    rw [Config.ofConfig_of_load hload]
    exact Secrets.areGiven_ofEnvironment env
  · intro m env p c m' env' p' c' hload hload' hsame
    rw [Config.ofConfig_of_load hload, Config.ofConfig_of_load hload',
      Secrets.ofEnvironment_congr hsame]
  · intro m path env p c hload
    have hsecrets := Config.ofConfig_of_loadFrom hload
    exact ⟨hsecrets, fun env₀ start b hmake => Bootstrap.sent_of_no_secrets hmake hsecrets⟩

/-! Two runs with the same header in their variables: for one a settings file gives a header as
well, and an override half of the key pair; for the other the file lists both halves after the
authorize URL. -/

namespace Secrets

def overridden : Environment :=
  .ofPairs [(Utf8.encode "AUTH_HEADER", Utf8.encode "a: b"),
    (Utf8.encode "BOOTFETCH__B2__KEY_ID", Utf8.encode "k")]

def listed : Environment :=
  .ofPairs [(Utf8.encode "AUTH_HEADER", Utf8.encode "a: b"),
    (Utf8.encode "BOOTFETCH_CONFIG", Utf8.encode "c.json")]

def withFile (name content : String) : Progress :=
  { files := FileTree.empty.put [Utf8.encode name] (.file (Utf8.encode content) false) }

end Secrets

theorem secrets_come_from_variables_sample :
    ∃ c c', ((Config.load Bootstrap.sampleMachine Secrets.overridden).run
        (Secrets.withFile "bootfetch.toml" "auth_header = \"x\"")).1 = .ok c ∧
      ((Config.load Bootstrap.sampleMachine Secrets.listed).run
        (Secrets.withFile "c.json" "\x7b\"b2\":[\"http://p/\",\"k\",\"s\"]\x7d")).1 = .ok c' ∧
      c ≠ c' ∧ Secrets.AreGiven Secrets.overridden (Secrets.ofConfig c) ∧
      Secrets.ofConfig c = Secrets.ofConfig c' := by
  have hload : ((Config.load Bootstrap.sampleMachine Secrets.overridden).run
      (Secrets.withFile "bootfetch.toml" "auth_header = \"x\"")).1 =
        .ok { authHeader := some "a: b" } := by
    decide +kernel
  have hload' : ((Config.load Bootstrap.sampleMachine Secrets.listed).run
      (Secrets.withFile "c.json" "\x7b\"b2\":[\"http://p/\",\"k\",\"s\"]\x7d")).1 =
        .ok { authHeader := some "a: b", account := { authUrl := "http://p/" } } := by
    decide +kernel
  refine ⟨_, _, hload, hload', by decide, secrets_come_from_variables.1 _ _ _ _ hload, ?_⟩
  exact secrets_come_from_variables.2.1 _ _ _ _ _ _ _ _ hload hload' (by decide +kernel)

end Prelaunch
