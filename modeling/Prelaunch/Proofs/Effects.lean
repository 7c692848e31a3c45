import Prelaunch.Proofs.FetchStage

/-!
How far a run has gone when it fails. Loading settings and making a bootstrap only tell; after that
each kind of error belongs to one stage, and no later stage has left a trace.
-/

namespace Prelaunch

/-! Loading the settings. -/

namespace Config

theorem onlyTells_tellSource (path : Path) (isThere : Bool) :
    Action.OnlyTells (tellSource path isThere) := by
  cases isThere <;> exact .tell _ _ _

theorem onlyTells_readSources (m : Machine) (path : Path) (env : Environment) :
    Action.OnlyTells (readSources m path env) := by
  exact .bind .files fun files => .bind (onlyTells_tellSource _ _) fun _ => .orFail _ _

theorem onlyTells_checked (c : Config) : Action.OnlyTells (checked c) :=
  .bind (.orFail _ _) fun _ => .pure _

theorem onlyTells_load (m : Machine) (env : Environment) : Action.OnlyTells (load m env) :=
  .bind (onlyTells_readSources _ _ _) fun _ => onlyTells_checked _

end Config

/-- Some variable of the half has a text that is not empty. -/
def CredentialHalf.IsSet (half : CredentialHalf) (env : Environment) : Prop :=
  ∃ name ∈ half.variables, ∃ text, env.get? name = some text ∧ text ≠ ""

theorem Environment.firstNonEmpty?_eq_none_iff {half : CredentialHalf} {env : Environment} :
    env.firstNonEmpty? half.variables = none ↔ ¬ half.IsSet env := by
  simp [firstNonEmpty?, nonEmpty?, CredentialHalf.IsSet]

theorem Config.validate_of_partial {c : Config} {env : Environment}
    {present missing : CredentialHalf} (hpresent : present.IsSet env)
    (hmissing : ¬ missing.IsSet env) :
    (c.deployed env).validate = .error (.partialCredentials present missing) := by
  have hnone := Environment.firstNonEmpty?_eq_none_iff.2 hmissing
  obtain ⟨text, hsome⟩ := Option.ne_none_iff_exists'.1
    fun h => Environment.firstNonEmpty?_eq_none_iff.1 h hpresent
  cases present with
  | keyId =>
      cases missing with
      | keyId => exact absurd hpresent hmissing
      | applicationKey => simp [validate, checkAccount, deployed, hsome, hnone, bind, Except.bind]
  | applicationKey =>
      cases missing with
      | keyId => simp [validate, checkAccount, deployed, hsome, hnone, bind, Except.bind]
      | applicationKey => exact absurd hpresent hmissing

theorem Config.load_of_partial {m : Machine} {env : Environment} {p : Progress} {c : Config}
    {present missing : CredentialHalf}
    (hsources : ((readSources m (pathFrom env) env).run p).1 = .ok c)
    (hpresent : present.IsSet env) (hmissing : ¬ missing.IsSet env) :
    ((load m env).run p).1 = .error (.validation (.partialCredentials present missing)) := by
  obtain ⟨q, hq⟩ : ∃ q, (readSources m (pathFrom env) env).run p = (.ok c, q) :=
    ⟨_, Prod.ext hsources rfl⟩
  unfold load checked
  rw [Action.run_bind_of_ok hq, validate_of_partial hpresent hmissing]
  rfl

namespace Bootstrap

/-- Whatever comes before the preparation only tells, and the first failure is the result. -/
theorem run_run (m : Machine) (args : List Bytes) (env : Environment) (p : Progress) :
    ∃ q : Progress, q.files = p.files ∧ q.sent = p.sent ∧
      (run m args env).run p = match ((Config.load m env).run p).1 with
        | .error e => (.error (.configuration e), q)
        | .ok c => match built c env with
          | .error e => (.error e, q)
          | .ok b => (b.prepare m args env).run q := by
  obtain ⟨hfiles, hsent⟩ := Config.onlyTells_load m env p
  unfold run
  rw [Action.run_bind, Action.run_within]
  rcases hload : (Config.load m env).run p with ⟨e | c, q⟩
  · rw [hload] at hfiles hsent
    exact ⟨q, hfiles, hsent, rfl⟩
  · rw [hload] at hfiles hsent
    obtain ⟨events, hmake⟩ := run_make c env q
    refine ⟨{ q with events }, hfiles, hsent, ?_⟩
    dsimp only
    rw [Action.run_bind, hmake]
    cases built c env <;> rfl

theorem built_eq_error {c : Config} {env : Environment} {e : BootstrapError}
    (h : built c env = .error e) :
    (∃ cause, Http.Client.make c.http = .error cause ∧ e = .httpClient cause) ∨
    (∃ cause, (c.validate = .error cause ∨ c.explicitHeader = .error cause) ∧
      e = .invalidConfig cause) ∨
    ∃ cause, plan env c.bootstrap.configDir c.primaryUrl = .error cause ∧ e = .artifact cause := by
  unfold built at h
  split at h
  · rename_i cause hclient
    exact .inl ⟨cause, hclient, (Except.error.inj h).symm⟩
  · split at h
    · rename_i cause hvalid
      exact .inr (.inl ⟨cause, .inl hvalid, (Except.error.inj h).symm⟩)
    · split at h
      · rename_i cause hheader
        exact .inr (.inl ⟨cause, .inr hheader, (Except.error.inj h).symm⟩)
      · split at h
        · rename_i cause hplan
          exact .inr (.inr ⟨cause, hplan, (Except.error.inj h).symm⟩)
        · cases h

/-- What the settings and the plan of a run come to. -/
def IsFrom (m : Machine) (env : Environment) (before : Progress) (b : Bootstrap) : Prop :=
  ∃ c, ((Config.load m env).run before).1 = .ok c ∧ ∀ s, ((make c env).run s).1 = .ok b

end Bootstrap

/-- What a run has done when it ends with an error: nothing, or no more than to add the working
directory, or to ask the provider as well, or to make every download of its plan. -/
def BootstrapError.Bounds (m : Machine) (env : Environment) (before after : Progress) :
    BootstrapError → Prop
  | .configuration _ | .invalidConfig _ | .artifact _ | .httpClient _ =>
    after.files = before.files ∧ after.sent = before.sent
  | .workingDirectory dir _ =>
    after.sent = before.sent ∧ FileTree.SameFiles before.files after.files ∧
      FileTree.AddsDirectories (FileTree.start m.workingDir dir) dir.steps before.files after.files
  | .authorization _ => ∃ b keyId applicationKey, Bootstrap.IsFrom m env before b ∧
      b.config.account.credentials? = some (keyId, applicationKey) ∧
      after.sent = before.sent ++ (b.client.get m.network b.config.account.authUrl
        [Http.basicHeader (Utf8.encode keyId) (Utf8.encode applicationKey)]).sent ∧
      FileTree.SameFiles before.files after.files ∧
      FileTree.AddsDirectories (FileTree.start m.workingDir b.config.bootstrap.configDir)
        b.config.bootstrap.configDir.steps before.files after.files
  | .fetch _ => True
  | .launch _ => ∃ (b : Bootstrap) (provider : Option ProviderScheme)
      (written : List (ArtifactRequest × Bytes)) (ensured : FileTree),
      Bootstrap.IsFrom m env before b ∧ written.map (·.1) = b.artifacts ∧
      (∀ w ∈ written, ∀ s, ((Download.content m b.client w.1.url
        ((b.broker provider).choose w.1.url).header?).run s).1 = .ok w.2) ∧
      FileTree.AddsDirectories (FileTree.start m.workingDir b.config.bootstrap.configDir)
        b.config.bootstrap.configDir.steps before.files ensured ∧
      FileTree.HasWritten m.workingDir (written.map fun w => (w.1.path, w.2)) ensured after.files

namespace Bootstrap

theorem prepare_bounds {m : Machine} {args : List Bytes} {env : Environment} {p q : Progress}
    {b : Bootstrap} {e : BootstrapError} (hfrom : IsFrom m env p b) (hfiles : q.files = p.files)
    (hsent : q.sent = p.sent) (h : ((b.prepare m args env).run q).1 = .error e) :
    e.Bounds m env p ((b.prepare m args env).run q).2 := by
  obtain ⟨result, after, hrun, hstages⟩ := b.stages m args env q
  rw [hrun] at h ⊢
  have hadds := FileTree.ensureDirectory_adds q.files m.workingDir b.config.bootstrap.configDir
  cases hstages with
  | unusable hdir =>
      obtain rfl := Except.error.inj h
      rw [hdir, hfiles] at hadds
      exact ⟨hsent, hadds.sameFiles, hadds⟩
  | refused hdir hrefused =>
      obtain rfl := Except.error.inj h
      rw [hdir, hfiles] at hadds
      obtain ⟨keyId, applicationKey, hkeys⟩ := b.credentials_of_provided_error hrefused
      refine ⟨b, keyId, applicationKey, hfrom, hkeys, ?_, hadds.sameFiles, hadds⟩
      rw [← b.asked_of_credentials_some hkeys, hsent]
  | @provided t provider written failure after hdir hprovided hdownloads hasked =>
      rw [hdir, hfiles] at hadds
      obtain ⟨cause, -, rfl⟩ | ⟨cause, rfl, rfl⟩ := b.conclusion_eq_error h
      · trivial
      -- without a failed download nothing of the plan is left over
      · obtain ⟨rest, hsplit, ⟨-, rfl⟩ | ⟨_, _, _, hfails, -⟩⟩ := hdownloads.split
        · refine ⟨b, provider, written, t, hfrom, by simp [hsplit], hdownloads.content, hadds, ?_⟩
          obtain ⟨c, -, hmake⟩ := hfrom
          exact (isBuilt_of_make (hmake p)).hasWritten hdir hdownloads
        · cases hfails

/-- The kind of an error bounds what the run has done. And if only one half of the key pair is set,
the run ends with that as soon as its settings are read. -/
theorem run_bounded_by_error (m : Machine) (args : List Bytes) (env : Environment)
    (p : Progress) :
    (∀ e, ((run m args env).run p).1 = .error e →
      e.Bounds m env p ((run m args env).run p).2) ∧
    ∀ c present missing,
      ((Config.readSources m (Config.pathFrom env) env).run p).1 = .ok c →
      CredentialHalf.IsSet present env → ¬ CredentialHalf.IsSet missing env →
      ((run m args env).run p).1 =
        .error (.configuration (.validation (.partialCredentials present missing))) ∧
      ((run m args env).run p).2.sent = p.sent := by
  obtain ⟨q, hfiles, hsent, hrun⟩ := run_run m args env p
  rw [hrun]
  constructor
  · intro e h
    cases hload : ((Config.load m env).run p).1 with
    | error cause =>
        rw [hload] at h
        obtain rfl := Except.error.inj h
        exact ⟨hfiles, hsent⟩
    | ok c =>
        simp only [hload] at h ⊢
        cases hbuilt : built c env with
        | error cause =>
            rw [hbuilt] at h
            obtain rfl := Except.error.inj h
            obtain ⟨cause, -, rfl⟩ | ⟨cause, -, rfl⟩ | ⟨cause, -, rfl⟩ := built_eq_error hbuilt <;>
              exact ⟨hfiles, hsent⟩
        | ok b =>
            simp only [hbuilt] at h ⊢
            refine prepare_bounds ⟨c, hload, fun s => ?_⟩ hfiles hsent h
            obtain ⟨events, hmake⟩ := run_make c env s
            rw [hmake, hbuilt]
  · intro c present missing hsources hpresent hmissing
    rw [Config.load_of_partial hsources hpresent hmissing]
    exact ⟨rfl, hsent⟩

theorem run_bounded_by_error_sample :
    ((run sampleMachine [] (.ofPairs [(Utf8.encode "B2_KEY_ID", Utf8.encode "k")])).run
      { files := .empty }).1 =
        .error (.configuration (.validation (.partialCredentials .keyId .applicationKey))) := by
  exact ((run_bounded_by_error sampleMachine [] _ { files := .empty }).2 {} .keyId .applicationKey
    rfl ⟨"B2_KEY_ID", by decide, "k", rfl, by decide⟩
    (Environment.firstNonEmpty?_eq_none_iff.1 rfl)).1

end Bootstrap

end Prelaunch
