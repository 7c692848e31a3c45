import Prelaunch.Proofs.Account
import Prelaunch.Proofs.Downloads

/-!
The stages before the hand-over, one equation for each way through them: the working directory is
unusable, the provider grants nothing, or the downloads run.
-/

namespace Prelaunch.Bootstrap

variable (b : Bootstrap)

/-! The provider's scheme. -/

/-- What is asked of the provider, if there are keys to ask with. -/
def grantExchange? (net : Http.Network) : Option Http.Exchange :=
  b.config.account.credentials?.map fun (keyId, applicationKey) =>
    Grant.exchange b.client b.config.account.authUrl keyId applicationKey net

/-- The scheme that the answer to a key pair gives. -/
def grantedScheme (m : Machine) (keyId applicationKey : String) :
    Except AuthorizationError ProviderScheme :=
  match Grant.obtained m b.client b.config.account.authUrl keyId applicationKey with
  | .error e => .error e
  | .ok grant => grant.scheme

/-- The scheme for the downloads, if there are keys to ask with. -/
def provided (m : Machine) : Except AuthorizationError (Option ProviderScheme) :=
  match b.config.account.credentials? with
  | none => .ok none
  | some (keyId, applicationKey) => (b.grantedScheme m keyId applicationKey).map some

theorem credentials_of_provided_error {m : Machine} {e : AuthorizationError}
    (h : b.provided m = .error e) :
    ∃ keyId applicationKey, b.config.account.credentials? = some (keyId, applicationKey) := by
  unfold provided at h
  rcases hkeys : b.config.account.credentials? with _ | ⟨keyId, applicationKey⟩
  · rw [hkeys] at h
    cases h
  · exact ⟨keyId, applicationKey, rfl⟩

/-- The broker of the downloads. -/
abbrev broker (provider : Option ProviderScheme) : Broker := ⟨b.explicitHeader, provider⟩

theorem run_grantedScheme (m : Machine) (keyId applicationKey : String) (p : Progress) :
    ∃ events, (do
        let grant ← (authorize m b.client b.config.account.authUrl keyId applicationKey).within
          .authorization
        some <$> Action.orFail .authorization grant.scheme :
        Action BootstrapError (Option ProviderScheme)).run p =
      (match (b.grantedScheme m keyId applicationKey).map some with
        | .ok provider => .ok provider
        | .error e => .error (.authorization e),
        { p with
          sent := p.sent ++
            (Grant.exchange b.client b.config.account.authUrl keyId applicationKey m.network).sent
          events }) := by
  obtain ⟨events, hgrant⟩ :=
    run_authorize m b.client b.config.account.authUrl keyId applicationKey p
  refine ⟨events, ?_⟩
  unfold grantedScheme
  rw [Action.run_bind, Action.run_within, hgrant]
  cases Grant.obtained m b.client b.config.account.authUrl keyId applicationKey with
  | error e => rfl
  | ok grant =>
      dsimp only
      cases grant.scheme <;> rfl

theorem run_providerScheme (m : Machine) (p : Progress) :
    ∃ events, (b.providerScheme m).run p =
      (match b.provided m with
        | .ok provider => .ok provider
        | .error e => .error (.authorization e),
        { p with
          sent := p.sent ++ (b.grantExchange? m.network).toList.flatMap (·.sent)
          events }) := by
  unfold providerScheme provided grantExchange?
  rcases b.config.account.credentials? with _ | ⟨keyId, applicationKey⟩
  · exact ⟨p.events, by simp⟩
  · dsimp only
    split
    · rw [Action.run_bind_of_ok (Action.run_tell _ _ _ p)]
      simpa using b.run_grantedScheme m keyId applicationKey { p with events := _ }
    · simpa using b.run_grantedScheme m keyId applicationKey p

/-! The stages together. -/

theorem run_ensureWorkingDirectory (m : Machine) (dir : Path) (p : Progress) :
    (ensureWorkingDirectory m dir).run p =
      (match (p.files.ensureDirectory m.workingDir dir).2 with
        | .ok () => .ok ()
        | .error e => .error (.workingDirectory dir e),
        { p with files := (p.files.ensureDirectory m.workingDir dir).1 }) := by
  unfold ensureWorkingDirectory
  rw [Action.run_bind_of_ok (Action.run_files p)]
  rcases p.files.ensureDirectory m.workingDir dir with ⟨t, e | u⟩ <;> rfl

/-- A look at the directory never fails and changes nothing. -/
theorem run_tellDirectory (m : Machine) (dir : Path) (p : Progress) :
    ∃ events, (tellDirectory m dir).run p = (.ok (), { p with events }) := by
  unfold tellDirectory
  rw [Action.run_bind_of_ok (Action.run_files p)]
  split
  · exact ⟨_, rfl⟩
  · exact ⟨_, rfl⟩
  · exact Action.run_forM_of_tells (fun _ _ => ⟨_, rfl⟩) _ p

section Prepare

variable {m : Machine} {args : List Bytes} {env : Environment} {p q : Progress} {t : FileTree}

theorem run_prepare_of_unusable {e : FileError}
    (hdir : p.files.ensureDirectory m.workingDir b.config.bootstrap.configDir = (t, .error e)) :
    (b.prepare m args env).run p =
      (.error (.workingDirectory b.config.bootstrap.configDir e), { p with files := t }) := by
  unfold prepare
  refine Action.run_bind_of_error ?_ _
  rw [run_ensureWorkingDirectory, hdir]

theorem run_prepare_of_refused {e : BootstrapError}
    (hdir : p.files.ensureDirectory m.workingDir b.config.bootstrap.configDir = (t, .ok ()))
    (hgrant : (b.providerScheme m).run { p with files := t } = (.error e, q)) :
    (b.prepare m args env).run p = (.error e, q) := by
  unfold prepare
  rw [Action.run_bind_of_ok (q := { p with files := t }) (a := ())
    (by rw [run_ensureWorkingDirectory, hdir])]
  exact Action.run_bind_of_error hgrant _

/-- How the preparation ends after its downloads. -/
def conclusion (args : List Bytes) (env : Environment)
    (written : List (ArtifactRequest × Bytes)) :
    Option FetchError → Except BootstrapError Prepared
  | some e => .error (.fetch e)
  | none => match Launch.make b.config.bootstrap args env with
    | .ok launch => .ok ⟨written.map .of, launch⟩
    | .error e => .error (.launch e)

theorem conclusion_eq_error {written : List (ArtifactRequest × Bytes)}
    {failure : Option FetchError} {e : BootstrapError}
    (h : b.conclusion args env written failure = .error e) :
    (∃ cause, failure = some cause ∧ e = .fetch cause) ∨
      ∃ cause, failure = none ∧ e = .launch cause := by
  unfold conclusion at h
  cases failure with
  | some cause => exact .inl ⟨cause, rfl, (Except.error.inj h).symm⟩
  | none =>
      cases hlaunch : Launch.make b.config.bootstrap args env with
      | ok launch =>
          rw [hlaunch] at h
          cases h
      | error cause =>
          rw [hlaunch] at h
          exact .inr ⟨cause, rfl, (Except.error.inj h).symm⟩

theorem run_prepare_of_provided (args : List Bytes) (env : Environment)
    {provider : Option ProviderScheme}
    (hdir : p.files.ensureDirectory m.workingDir b.config.bootstrap.configDir = (t, .ok ()))
    (hgrant : (b.providerScheme m).run { p with files := t } = (.ok provider, q)) :
    ∃ written failure after,
      Downloads m b.client (b.broker provider) q.files b.artifacts written failure after.files ∧
      after.sent = q.sent ++ (b.artifacts.take (written.length + 1)).flatMap
        (fun r => (r.exchange m b.client (b.broker provider)).sent) ∧
      (b.prepare m args env).run p = (b.conclusion args env written failure, after) := by
  obtain ⟨written, failure, after, hdownloads, hsent, hrun⟩ :=
    b.run_downloads m (b.broker provider) b.artifacts q
  unfold prepare
  rw [Action.run_bind_of_ok (q := { p with files := t }) (a := ())
    (by rw [run_ensureWorkingDirectory, hdir]), Action.run_bind_of_ok hgrant]
  dsimp only
  cases failure with
  | some e => exact ⟨written, some e, after, hdownloads, hsent, Action.run_bind_of_error hrun _⟩
  | none =>
      rw [Action.run_bind_of_ok hrun, Action.run_bind_of_ok (Action.run_tell _ _ _ after)]
      obtain ⟨told, htold⟩ := run_tellDirectory m b.config.bootstrap.configDir
        { after with events := after.events ++ [⟨.info, "All artifacts fetched",
          [("count", Nat.repr (written.map FetchedArtifact.of).length),
            ("bytes", Nat.repr (totalBytes (written.map FetchedArtifact.of)))]⟩] }
      rw [Action.run_bind_of_ok htold]
      unfold conclusion
      cases Launch.make b.config.bootstrap args env with
      | error e => exact ⟨written, none, { after with events := told }, hdownloads, hsent, rfl⟩
      | ok launch =>
          exact ⟨written, none, { after with events := told ++ [⟨.debug,
            "Downstream environment prepared", [("var", launch.modulePathVar),
              ("value", Utf8.lossy launch.modulePath)]⟩] }, hdownloads, hsent, rfl⟩

end Prepare

/-- What the provider is sent. -/
def asked (net : Http.Network) : List Http.Request :=
  (b.grantExchange? net).toList.flatMap (·.sent)

theorem asked_of_credentials_none {net : Http.Network}
    (hkeys : b.config.account.credentials? = none) : b.asked net = [] := by
  simp [asked, grantExchange?, hkeys]

theorem asked_of_credentials_some {net : Http.Network} {keyId applicationKey : String}
    (hkeys : b.config.account.credentials? = some (keyId, applicationKey)) :
    b.asked net = (b.client.get net b.config.account.authUrl
      [Http.basicHeader (Utf8.encode keyId) (Utf8.encode applicationKey)]).sent := by
  simp [asked, grantExchange?, hkeys, Grant.exchange, Grant.proof]

/-- The ways through the preparation, each with its result and how things stand after it. -/
inductive Stages (m : Machine) (args : List Bytes) (env : Environment) (p : Progress) :
    Except BootstrapError Prepared → Progress → Prop where
  | unusable {t e}
      (hdir : p.files.ensureDirectory m.workingDir b.config.bootstrap.configDir = (t, .error e)) :
      Stages m args env p (.error (.workingDirectory b.config.bootstrap.configDir e))
        { p with files := t }
  | refused {t e events}
      (hdir : p.files.ensureDirectory m.workingDir b.config.bootstrap.configDir = (t, .ok ()))
      (hgrant : b.provided m = .error e) :
      Stages m args env p (.error (.authorization e)) ⟨t, p.sent ++ b.asked m.network, events⟩
  | provided {t provider written failure after}
      (hdir : p.files.ensureDirectory m.workingDir b.config.bootstrap.configDir = (t, .ok ()))
      (hgrant : b.provided m = .ok provider)
      (hdownloads :
        Downloads m b.client (b.broker provider) t b.artifacts written failure after.files)
      (hsent : after.sent = p.sent ++ b.asked m.network ++
        (b.artifacts.take (written.length + 1)).flatMap
          fun r => (r.exchange m b.client (b.broker provider)).sent) :
      Stages m args env p (b.conclusion args env written failure) after

theorem stages (m : Machine) (args : List Bytes) (env : Environment) (p : Progress) :
    ∃ result after, (b.prepare m args env).run p = (result, after) ∧
      b.Stages m args env p result after := by
  rcases hdir : p.files.ensureDirectory m.workingDir b.config.bootstrap.configDir with ⟨t, e | u⟩
  · exact ⟨_, _, b.run_prepare_of_unusable hdir, .unusable hdir⟩
  · -- from here on the directory is there, and the provider's answer decides
    obtain ⟨events, hscheme⟩ := b.run_providerScheme m { p with files := t }
    cases hgrant : b.provided m with
    | error e =>
        rw [hgrant] at hscheme
        exact ⟨_, _, b.run_prepare_of_refused hdir hscheme, .refused hdir hgrant⟩
    | ok provider =>
        rw [hgrant] at hscheme
        obtain ⟨written, failure, after, hdownloads, hsent, hrun⟩ :=
          b.run_prepare_of_provided args env hdir hscheme
        exact ⟨_, _, hrun, .provided hdir hgrant hdownloads hsent⟩

end Prelaunch.Bootstrap
