import Prelaunch.Proofs.Agreement.Preparation
import Prelaunch.Proofs.Construction
import Prelaunch.Proofs.SecretSources
import Prelaunch.Proofs.Settled
import Prelaunch.Proofs.VariableUse

/-!
What the values of secrets have an influence on. Two runs for which a secret is set in two ways send
requests that differ in the header that shows the secret, and do all else alike.
-/

namespace Prelaunch

open Settings

inductive SecretKind where
  | ownHeader
  | keyPair
  deriving DecidableEq, Repr

namespace SecretKind

/-- The variables that set a secret. -/
def names : SecretKind → List String
  | .ownHeader => ["AUTH_HEADER"]
  | .keyPair => CredentialHalf.keyId.variables ++ CredentialHalf.applicationKey.variables

/-- The header that shows a secret, if it is set. -/
def header? (env : Environment) : SecretKind → Option Header
  | .ownHeader => (env.nonEmpty? "AUTH_HEADER").bind fun raw => (Header.parse raw).toOption
  | .keyPair =>
    match env.firstNonEmpty? CredentialHalf.keyId.variables,
      env.firstNonEmpty? CredentialHalf.applicationKey.variables with
    | some keyId, some applicationKey => some (Grant.proof keyId applicationKey)
    | _, _ => none

/-- A secret is set in both environments, if in different ways: a header of one name, or a text for
the same of the four key variables. -/
def IsSetAlike (env env' : Environment) : SecretKind → Prop
  | .ownHeader => ∃ h h', header? env .ownHeader = some h ∧ header? env' .ownHeader = some h' ∧
      h.name = h'.name
  | .keyPair => ∀ name ∈ keyPair.names,
      (env.nonEmpty? name).isSome = (env'.nonEmpty? name).isSome

/-- The same header, or the secret in both of its ways. -/
def Veils (s : SecretKind) (env env' : Environment) (h h' : Header) : Prop :=
  h = h' ∨ h.name = h'.name ∧ s.header? env = some h ∧ s.header? env' = some h'

variable {s : SecretKind} {env env' : Environment}

theorem veils_refl (h : Header) : s.Veils env env' h h := .inl rfl

theorem isVeil_veils {net : Http.Network} (hnet : net.AnswersUrls) :
    net.IsVeil (s.Veils env env') where
  refl := veils_refl
  name := by
    rintro h h' (rfl | ⟨hname, -⟩)
    · rfl
    · exact hname
  reply patience _ _ halike := hnet patience _ _ halike.url

theorem isDeploymentName_of_mem {name : String} (h : name ∈ s.names) :
    Override.IsDeploymentName name := by
  refine .inl ?_
  cases s <;> revert name <;> decide

/-! Environments that differ in one secret. -/

/-- All variables but those of one secret say the same, and the secret is set alike. -/
structure DiffersOnly (s : SecretKind) (env env' : Environment) : Prop where
  get? : ∀ name ∉ s.names, env.get? name = env'.get? name
  getRaw? : ∀ name ∉ s.names, env.getRaw? name = env'.getRaw? name
  isSetAlike : s.IsSetAlike env env'

namespace DiffersOnly

theorem nonEmpty?_eq (h : s.DiffersOnly env env') {name : String} (hname : name ∉ s.names) :
    env.nonEmpty? name = env'.nonEmpty? name :=
  Environment.nonEmpty?_congr (h.get? name hname)

theorem firstNonEmpty?_eq (h : s.DiffersOnly env env') {names : List String}
    (hnames : ∀ name ∈ names, name ∉ s.names) :
    env.firstNonEmpty? names = env'.firstNonEmpty? names :=
  Environment.firstNonEmpty?_congr fun name hname => h.nonEmpty?_eq (hnames name hname)

theorem get?_eq_of_path? (h : s.DiffersOnly env env') (name : String)
    (hname : (Override.path? name).isSome = true) : env.get? name = env'.get? name := by
  refine h.get? name fun hmem => ?_
  rw [Override.path?_eq_none_of_isDeploymentName (isDeploymentName_of_mem hmem)] at hname
  cases hname

theorem candidates_eq (h : s.DiffersOnly env env') : Plan.candidates env = Plan.candidates env' := by
  -- no variable of a secret begins like those that ask for downloads
  have hstart (start : String) (kind : ArtifactKind)
      (hnone : ∀ name ∈ s.names, Text.startsWith start name = false) :
      Plan.candidatesFor env start kind = Plan.candidatesFor env' start kind := by
    refine Plan.candidatesFor_congr start kind fun name hname => h.get? name fun hmem => ?_
    rw [hnone name hmem] at hname
    cases hname
  unfold Plan.candidates
  rw [hstart Plan.configStart .config (by cases s <;> decide),
    hstart Plan.handlerStart .handler (by cases s <;> decide)]

theorem plan_eq (h : s.DiffersOnly env env') (dir : Path) (primary : Option String) :
    plan env dir primary = plan env' dir primary := by
  refine plan_congr ?_ dir primary
  rw [h.candidates_eq]

theorem tellVacant_eq (h : s.DiffersOnly env env') :
    Bootstrap.tellVacant env = Bootstrap.tellVacant env' := by
  unfold Bootstrap.tellVacant Plan.vacant
  rw [h.candidates_eq]

theorem launch_eq (h : s.DiffersOnly env env') {c : BootstrapSettings}
    (hpath : c.modulePathVar ∉ s.names) (args : List Bytes) :
    Launch.make c args env = Launch.make c args env' :=
  Launch.make_congr (h.getRaw? _ hpath) args

end DiffersOnly

end SecretKind

/-! Settings with the secret in both of its ways. -/

namespace Config

variable {c c' : Config}

theorem checkAccount_congr {s s' : AccountSettings} (hurl : s.authUrl = s'.authUrl)
    (hkeyId : s.keyId.isSome = s'.keyId.isSome)
    (happlicationKey : s.applicationKey.isSome = s'.applicationKey.isSome) :
    checkAccount s = checkAccount s' := by
  obtain ⟨url, keyId, applicationKey⟩ := s
  obtain ⟨url', keyId', applicationKey'⟩ := s'
  obtain rfl : url = url' := hurl
  cases keyId <;> cases keyId' <;> cases hkeyId <;>
    cases applicationKey <;> cases applicationKey' <;> cases happlicationKey <;> rfl

theorem validate_congr {S : Option Header → Option Header → Prop}
    (haccount : checkAccount c.account = checkAccount c'.account)
    (hheader : Prelaunch.Alike S c.explicitHeader c'.explicitHeader)
    (hbootstrap : c.bootstrap = c'.bootstrap) (hhttp : c.http = c'.http) :
    c.validate = c'.validate := by
  unfold validate
  rw [haccount, hbootstrap, hhttp]
  generalize c.explicitHeader = header at hheader ⊢
  generalize c'.explicitHeader = header' at hheader ⊢
  cases hheader with
  | ok => rfl
  | error => rfl

end Config

namespace SecretKind

variable {s : SecretKind} {env env' : Environment}

/-! The parts that are deployed without a secret are the same. -/

theorem DiffersOnly.bootstrap_eq (h : s.DiffersOnly env env') (c : Config) :
    (c.deployed env).bootstrap = (c.deployed env').bootstrap := by
  unfold Config.deployed
  rw [h.nonEmpty?_eq (show "CONFIG_DIR" ∉ s.names by cases s <;> decide)]

theorem DiffersOnly.authUrl_eq (h : s.DiffersOnly env env') (c : Config) :
    (c.deployed env).account.authUrl = (c.deployed env').account.authUrl := by
  unfold Config.deployed
  rw [h.nonEmpty?_eq (show "BACKBLAZE_AUTH_URL" ∉ s.names by cases s <;> decide)]

theorem DiffersOnly.alike_deployed (h : s.DiffersOnly env env') (c : Config)
    (hkeyId : (c.deployed env).account.keyId.isSome = (c.deployed env').account.keyId.isSome)
    (happlicationKey : (c.deployed env).account.applicationKey.isSome =
      (c.deployed env').account.applicationKey.isSome)
    (hheader : Alike (Option.Rel (s.Veils env env')) (c.deployed env).explicitHeader
      (c.deployed env').explicitHeader)
    (hkeys : Option.Rel (KeysAlike (s.Veils env env')) (c.deployed env).account.credentials?
      (c.deployed env').account.credentials?) :
    Config.Alike (s.Veils env env') (c.deployed env) (c.deployed env') where
  bootstrap := h.bootstrap_eq c
  http := rfl
  authUrl := h.authUrl_eq c
  primaryUrl := h.nonEmpty?_eq (by cases s <;> decide)
  valid := Config.validate_congr
    (Config.checkAccount_congr (h.authUrl_eq c) hkeyId happlicationKey) hheader (h.bootstrap_eq c) rfl
  explicitHeader := hheader
  credentials := hkeys

theorem explicitHeader_deployed {own : Header} (hown : ownHeader.header? env = some own)
    (c : Config) : (c.deployed env).explicitHeader = .ok (some own) := by
  obtain ⟨raw, hraw, hparse⟩ := Option.bind_eq_some_iff.1 hown
  refine Config.explicitHeader_eq_ok.2 (.inr ⟨raw, own, hraw, ?_, rfl⟩)
  cases hheader : Header.parse raw with
  | error e =>
      rw [hheader] at hparse
      cases hparse
  | ok header =>
      rw [hheader] at hparse
      rw [Option.some.inj hparse]

theorem alike_deployed_ownHeader (h : ownHeader.DiffersOnly env env') (c : Config) :
    Config.Alike (ownHeader.Veils env env') (c.deployed env) (c.deployed env') := by
  obtain ⟨own, own', hown, hown', hname⟩ := h.isSetAlike
  have hkeyId : (c.deployed env).account.keyId = (c.deployed env').account.keyId :=
    h.firstNonEmpty?_eq (by decide)
  have happlicationKey :
      (c.deployed env).account.applicationKey = (c.deployed env').account.applicationKey :=
    h.firstNonEmpty?_eq (by decide)
  refine h.alike_deployed c (by rw [hkeyId]) (by rw [happlicationKey]) ?_ ?_
  · rw [explicitHeader_deployed hown, explicitHeader_deployed hown']
    exact .ok (.some (.inr ⟨hname, hown, hown'⟩))
  · unfold AccountSettings.credentials?
    rw [hkeyId, happlicationKey]
    exact optionRel_refl (fun keys => veils_refl (Grant.proof keys.1 keys.2)) _

theorem isSome_firstNonEmpty?_congr {names : List String}
    (h : ∀ name ∈ names, (env.nonEmpty? name).isSome = (env'.nonEmpty? name).isSome) :
    (env.firstNonEmpty? names).isSome = (env'.firstNonEmpty? names).isSome := by
  unfold Environment.firstNonEmpty?
  rw [Bool.eq_iff_iff, List.findSome?_isSome_iff, List.findSome?_isSome_iff]
  exact exists_congr fun name => and_congr_right fun hname => by rw [h name hname]

theorem header?_keyPair (env : Environment) (c : Config) :
    keyPair.header? env =
      (c.deployed env).account.credentials?.map fun keys => Grant.proof keys.1 keys.2 := by
  unfold header? AccountSettings.credentials? Config.deployed
  dsimp only
  cases env.firstNonEmpty? CredentialHalf.keyId.variables <;>
    cases env.firstNonEmpty? CredentialHalf.applicationKey.variables <;> rfl

theorem isSome_credentials? {a : AccountSettings} :
    a.credentials?.isSome = (a.keyId.isSome && a.applicationKey.isSome) := by
  unfold AccountSettings.credentials?
  cases a.keyId <;> cases a.applicationKey <;> rfl

theorem alike_deployed_keyPair (h : keyPair.DiffersOnly env env') (c : Config) :
    Config.Alike (keyPair.Veils env env') (c.deployed env) (c.deployed env') := by
  have hset : ∀ name ∈ keyPair.names,
      (env.nonEmpty? name).isSome = (env'.nonEmpty? name).isSome := h.isSetAlike
  have hkeyId : (c.deployed env).account.keyId.isSome = (c.deployed env').account.keyId.isSome :=
    isSome_firstNonEmpty?_congr fun name hname => hset name (List.mem_append_left _ hname)
  have happlicationKey : (c.deployed env).account.applicationKey.isSome =
      (c.deployed env').account.applicationKey.isSome :=
    isSome_firstNonEmpty?_congr fun name hname => hset name (List.mem_append_right _ hname)
  refine h.alike_deployed c hkeyId happlicationKey ?_ ?_
  · have hown : (c.deployed env).authHeader = (c.deployed env').authHeader :=
      h.nonEmpty?_eq (by decide)
    unfold Config.explicitHeader
    rw [hown]
    exact .refl (optionRel_refl veils_refl) _
  · have hboth : (c.deployed env).account.credentials?.isSome =
        (c.deployed env').account.credentials?.isSome := by
      rw [isSome_credentials?, isSome_credentials?, hkeyId, happlicationKey]
    have hshown := header?_keyPair env c
    have hshown' := header?_keyPair env' c
    cases hkeys : (c.deployed env).account.credentials? <;>
      cases hkeys' : (c.deployed env').account.credentials? <;>
      rw [hkeys, hkeys'] at hboth
    case none.none => exact .none
    case some.some keys keys' =>
      rw [hkeys] at hshown
      rw [hkeys'] at hshown'
      exact .some (.inr ⟨rfl, hshown, hshown'⟩)
    all_goals cases hboth

theorem alike_deployed (h : s.DiffersOnly env env') (c : Config) :
    Config.Alike (s.Veils env env') (c.deployed env) (c.deployed env') := by
  cases s with
  | ownHeader => exact alike_deployed_ownHeader h c
  | keyPair => exact alike_deployed_keyPair h c

/-! Runs. -/

open Action

theorem agree_load (h : s.DiffersOnly env env') (m : Machine) :
    Agree (s.Veils env env') (fun _ => true) (Config.Alike (s.Veils env env'))
      (Config.load m env) (Config.load m env') := by
  have hpath : Config.pathFrom env = Config.pathFrom env' :=
    Config.pathFrom_congr (h.nonEmpty?_eq (by cases s <;> decide))
  unfold Config.load
  rw [hpath]
  refine .bind (Config.agree_readSources
    fun files => Config.settingsAt_congr h.get?_eq_of_path? m files _) ?_
  rintro c _ rfl
  have halike := alike_deployed h c
  exact Config.agree_checked halike.valid halike

/-- Two whole runs, as long as no secret is the search path for modules. -/
theorem alike_run (h : s.DiffersOnly env env') {m : Machine} (hnet : m.network.AnswersUrls)
    (args : List Bytes) (p : Progress)
    (hpath : ∀ c, ((Config.load m env).run p).1 = .ok c → c.bootstrap.modulePathVar ∉ s.names) :
    Alike Eq ((Bootstrap.run m args env).run p).1 ((Bootstrap.run m args env').run p).1 ∧
      Progress.Alike (s.Veils env env') (fun _ => true) ((Bootstrap.run m args env).run p).2
        ((Bootstrap.run m args env').run p).2 := by
  obtain ⟨hload, hafter⟩ := agree_load h m p p (.refl veils_refl _ p)
  unfold Bootstrap.run
  rw [run_bind, run_within, run_bind, run_within]
  rcases hrun : (Config.load m env).run p with ⟨r, q⟩
  rcases hrun' : (Config.load m env').run p with ⟨r', q'⟩
  rw [hrun, hrun'] at hload hafter
  rw [hrun] at hpath
  cases hload with
  | error e => exact ⟨.error _, hafter⟩
  | @ok c c' hc =>
      -- the settings are at hand here, and with them the name of the search path
      have hmodules : c.bootstrap.modulePathVar ∉ s.names := hpath c rfl
      have hvacant : Agree (s.Veils env env') (fun _ => true) Eq (Bootstrap.tellVacant env)
          (Bootstrap.tellVacant env') := by
        rw [h.tellVacant_eq]
        exact .forM (fun _ => .tell _ _ _) _
      have hrest : Agree (s.Veils env env') (fun _ => true) Eq
          (Bootstrap.make c env >>= fun b => b.prepare m args env)
          (Bootstrap.make c' env' >>= fun b => b.prepare m args env') := by
        refine .bind (Bootstrap.agree_make hc hvacant h.plan_eq) ?_
        rintro b b' ⟨rfl, hb⟩
        refine Bootstrap.agree_prepare (isVeil_veils hnet) args hb ?_
        rw [← hb.config.bootstrap, h.launch_eq hmodules]
      exact hrest q q' hafter

/-! Pairs. -/

variable {pairs pairs' : List (Bytes × Bytes)}

theorem differsOnly_ofPairs (hnames : (pairs.map (·.1)).Nodup) (hnames' : (pairs'.map (·.1)).Nodup)
    (hsame : ∀ name ∉ s.names.map Utf8.encode, pairs.lookup name = pairs'.lookup name)
    (halike : s.IsSetAlike (.ofPairs pairs) (.ofPairs pairs')) :
    s.DiffersOnly (.ofPairs pairs) (.ofPairs pairs') := by
  have hlookup (name : String) (hname : name ∉ s.names) :
      pairs.lookup (Utf8.encode name) = pairs'.lookup (Utf8.encode name) := by
    refine hsame _ fun hmem => hname ?_
    obtain ⟨other, hother, heq⟩ := List.mem_map.1 hmem
    rwa [← Utf8.encode_inj.1 heq]
  refine ⟨fun name hname => ?_, fun name hname => ?_, halike⟩
  · rw [Environment.get?_ofPairs hnames, Environment.get?_ofPairs hnames', hlookup name hname]
  · rw [Environment.getRaw?_ofPairs hnames, Environment.getRaw?_ofPairs hnames', hlookup name hname]

end SecretKind

/-- A secret has an influence on nothing but the header that shows it, if hosts go by the URLs of
requests. Two runs whose variables are the same but for those of one secret, which is set alike, and
whose hash tables are in orders in which the settings are read alike, come to the same result with
the same files and tell the same. They send requests for the same URLs, with the same headers but
for that one. -/
theorem secret_values_stay_in_headers (s : SecretKind) (pairs pairs' : List (Bytes × Bytes))
    (hnames : (pairs.map (·.1)).Nodup) (hnames' : (pairs'.map (·.1)).Nodup)
    (hsame : ∀ name ∉ s.names.map Utf8.encode, pairs.lookup name = pairs'.lookup name)
    (halike : s.IsSetAlike (.ofPairs pairs) (.ofPairs pairs')) (m : Machine)
    (hnet : m.network.AnswersUrls) (o : HashOrder) (args : List Bytes) (p : Progress)
    (hread : Config.IsReadAlike m o p.files (Config.pathFrom (.ofPairs pairs')) (.ofPairs pairs'))
    (hpath : ∀ c, ((Config.load m (.ofPairs pairs)).run p).1 = .ok c →
      c.bootstrap.modulePathVar ∉ s.names) :
    let one := (Bootstrap.run m args (.ofPairs pairs)).run p
    let other := (Bootstrap.run (m.ordered o) args (.ofPairs pairs')).run p
    one.1 = other.1 ∧ one.2.files = other.2.files ∧ one.2.events = other.2.events ∧
      List.Forall₂ (Http.Request.Alike (s.Veils (.ofPairs pairs) (.ofPairs pairs')))
        one.2.sent other.2.sent := by
  have hdiffers := SecretKind.differsOnly_ofPairs hnames hnames' hsame halike
  obtain ⟨hresult, hfiles, hsent, hevents⟩ := SecretKind.alike_run hdiffers hnet args p hpath
  dsimp only
  rw [Bootstrap.run_ordered hread]
  exact ⟨hresult.eq, hfiles, by simpa using hevents, hsent⟩

/-! A run that asks the sample provider for a grant, with one key or another. -/

namespace SecretKind

/-- An order in which entries with small letters at the start of their names come first. -/
def smallFirst : HashOrder := ⟨fun _ name => if name.toList.head?.any Char.isLower then 0 else 1⟩

def sampleWithKey (applicationKey : String) : List (Bytes × Bytes) :=
  [(Utf8.encode "B2_KEY_ID", Utf8.encode "k"),
    (Utf8.encode "B2_APPLICATION_KEY", Utf8.encode applicationKey),
    (Utf8.encode "BACKBLAZE_AUTH_URL", Utf8.encode "http://p/"),
    (Utf8.encode "CONFIG_DIR", Utf8.encode "/d")]

end SecretKind

theorem secret_values_stay_in_headers_sample :
    let one := (Bootstrap.run Bootstrap.sampleMachine []
      (.ofPairs (SecretKind.sampleWithKey "s"))).run { files := .empty }
    let other := (Bootstrap.run (Bootstrap.sampleMachine.ordered SecretKind.smallFirst) []
      (.ofPairs (SecretKind.sampleWithKey "t"))).run { files := .empty }
    one.2.sent ≠ other.2.sent ∧ one.1 = other.1 ∧
      one.2.files = other.2.files ∧ one.2.events = other.2.events ∧
      List.Forall₂ (Http.Request.Alike (SecretKind.keyPair.Veils
        (.ofPairs (SecretKind.sampleWithKey "s")) (.ofPairs (SecretKind.sampleWithKey "t"))))
        one.2.sent other.2.sent := by
  have hload : ((Config.load Bootstrap.sampleMachine
      (.ofPairs (SecretKind.sampleWithKey "s"))).run { files := .empty }).1 =
        .ok Bootstrap.sampleConfig := by
    decide +kernel
  have hnet : Bootstrap.sampleMachine.network.AnswersUrls := fun _ _ _ hurl =>
    congrArg Bootstrap.sampleReply hurl
  have hread : Config.IsReadAlike Bootstrap.sampleMachine SecretKind.smallFirst .empty
      (Config.pathFrom (.ofPairs (SecretKind.sampleWithKey "t")))
      (.ofPairs (SecretKind.sampleWithKey "t")) := by
    unfold Config.IsReadAlike
    decide +kernel
  refine ⟨by decide +kernel, ?_⟩
  refine secret_values_stay_in_headers .keyPair (SecretKind.sampleWithKey "s")
    (SecretKind.sampleWithKey "t") (by decide +kernel) (by decide +kernel) ?_ ?_ _ hnet _ _ _ hread ?_
  · intro name hname
    have hne : name ≠ Utf8.encode "B2_APPLICATION_KEY" := by
      rintro rfl
      exact hname (by decide +kernel)
    simp [SecretKind.sampleWithKey, List.lookup_cons, beq_false_of_ne hne]
  · show ∀ name ∈ SecretKind.keyPair.names, _
    decide +kernel
  · intro c hc
    obtain rfl := Except.ok.inj (hload.symm.trans hc)
    decide +kernel

/-! A half of a key pair that is no text is as good as not set. So the value of a variable that is
not empty can decide how a run ends. And where a setting is spelled in two ways, the order of hash
tables decides which one counts. -/

namespace SecretKind

/-- The key pair has an authorize URL that is refused. -/
def sampleWithId (keyId : Bytes) : List (Bytes × Bytes) :=
  [(Utf8.encode "B2_KEY_ID", keyId), (Utf8.encode "B2_APPLICATION_KEY", Utf8.encode "s"),
    (Utf8.encode "BACKBLAZE_AUTH_URL", Utf8.encode "not a url")]

/-- Two programs to launch, in capitals and in small letters. -/
def sampleWithPrograms (header : String) : List (Bytes × Bytes) :=
  [(Utf8.encode "AUTH_HEADER", Utf8.encode header),
    (Utf8.encode "BOOTFETCH__BOOTSTRAP__ENTRYPOINT", Utf8.encode "x"),
    (Utf8.encode "bootfetch__bootstrap__entrypoint", Utf8.encode "y")]

end SecretKind

theorem key_without_text_changes_run :
    (let one := SecretKind.sampleWithId (Utf8.encode "k")
    let other := SecretKind.sampleWithId [0xFF]
    (one.map (·.1)).Nodup ∧ (other.map (·.1)).Nodup ∧ (∀ pair ∈ one ++ other, pair.2 ≠ []) ∧
    (∀ name, name ≠ Utf8.encode "B2_KEY_ID" → one.lookup name = other.lookup name) ∧
    ((Bootstrap.run Bootstrap.sampleMachine [] (.ofPairs one)).run { files := .empty }).1 =
      .error (.configuration (.validation (.invalidAuthUrl "not a url" .relativeWithoutBase))) ∧
    ((Bootstrap.run Bootstrap.sampleMachine [] (.ofPairs other)).run { files := .empty }).1 =
      .error (.configuration (.validation (.partialCredentials .applicationKey .keyId)))) ∧
    let one := SecretKind.sampleWithPrograms "a: b"
    let other := SecretKind.sampleWithPrograms "a: c"
    (one.map (·.1)).Nodup ∧ (other.map (·.1)).Nodup ∧
    (∀ name, name ≠ Utf8.encode "AUTH_HEADER" → one.lookup name = other.lookup name) ∧
    ((Bootstrap.run Bootstrap.sampleMachine [] (.ofPairs one)).run { files := .empty }).1 =
      .ok ⟨[], ⟨"y", [], "PYTHONPATH", Utf8.encode "/app/config"⟩⟩ ∧
    ((Bootstrap.run (Bootstrap.sampleMachine.ordered SecretKind.smallFirst) []
      (.ofPairs other)).run { files := .empty }).1 =
      .ok ⟨[], ⟨"x", [], "PYTHONPATH", Utf8.encode "/app/config"⟩⟩ := by
  have hlookup {first : Bytes} (value value' : Bytes) (rest : List (Bytes × Bytes)) {name : Bytes}
      (hname : name ≠ first) :
      List.lookup name ((first, value) :: rest) = List.lookup name ((first, value') :: rest) := by
    rw [List.lookup_cons, List.lookup_cons, beq_false_of_ne hname]
  refine ⟨⟨by decide +kernel, by decide +kernel, by decide +kernel, fun name hname => ?_,
    by decide +kernel, by decide +kernel⟩, by decide +kernel, by decide +kernel, fun name hname => ?_,
    by decide +kernel, by decide +kernel⟩
  · exact hlookup _ _ _ hname
  · exact hlookup _ _ _ hname

end Prelaunch
