import Prelaunch.Bootstrap
import Prelaunch.Proofs.Action

/-!
What is known of a bootstrap that has been made: its settings are valid, its header is the one they
set, its plan is that of the environment. Making one only tells.
-/

namespace Prelaunch

namespace Config

variable {c : Config}

theorem validate_eq_ok :
    c.validate = .ok () ↔ checkAccount c.account = .ok () ∧ (∃ h, c.explicitHeader = .ok h) ∧
      checkBootstrap c.bootstrap = .ok () ∧ checkHttp c.http = .ok () := by
  unfold validate
  cases checkAccount c.account <;> cases c.explicitHeader <;> cases checkBootstrap c.bootstrap <;>
    simp [bind, Except.bind]

theorem configDir_of_validate (h : c.validate = .ok ()) :
    c.bootstrap.configDir.isEmpty = false := by
  have hcheck := (validate_eq_ok.1 h).2.2.1
  unfold checkBootstrap at hcheck
  split at hcheck
  · cases hcheck
  · rename_i hempty
    simpa using hempty

/-- The operator's own header is what the setting spells. -/
theorem explicitHeader_eq_ok {header : Option Header} :
    c.explicitHeader = .ok header ↔
      (c.authHeader = none ∧ header = none) ∨
        ∃ raw h, c.authHeader = some raw ∧ Header.parse raw = .ok h ∧ header = some h := by
  unfold explicitHeader
  cases c.authHeader with
  | none => simp [eq_comm]
  | some raw => cases hparse : Header.parse raw <;> simp [hparse, eq_comm]

end Config

namespace Bootstrap

/-- What comes of making a bootstrap. -/
def built (c : Config) (env : Environment) : Except BootstrapError Bootstrap :=
  match Http.Client.make c.http with
  | .error e => .error (.httpClient e)
  | .ok client => match c.validate with
    | .error e => .error (.invalidConfig e)
    | .ok () => match c.explicitHeader with
      | .error e => .error (.invalidConfig e)
      | .ok header => match plan env c.bootstrap.configDir c.primaryUrl with
        | .error e => .error (.artifact e)
        | .ok artifacts => .ok ⟨c, header, artifacts, client⟩

theorem run_make (c : Config) (env : Environment) (p : Progress) :
    ∃ events, (make c env).run p = (built c env, { p with events }) := by
  unfold make built
  rw [Action.run_bind]
  cases Http.Client.make c.http with
  | error e => exact ⟨p.events, rfl⟩
  | ok client =>
      rw [Action.run_orFail_ok]
      dsimp only
      rw [Action.run_bind]
      cases c.validate with
      | error e => exact ⟨p.events, rfl⟩
      | ok u =>
          rw [Action.run_orFail_ok]
          dsimp only
          rw [Action.run_bind]
          cases c.explicitHeader with
          | error e => exact ⟨p.events, rfl⟩
          | ok header =>
              rw [Action.run_orFail_ok]
              obtain ⟨told, htold⟩ :
                  ∃ told, (tellVacant env).run p = (.ok (), { p with events := told }) :=
                Action.run_forM_of_tells (fun _ _ => ⟨_, rfl⟩) _ p
              dsimp only
              rw [Action.run_bind_of_ok htold]
              refine ⟨told, ?_⟩
              cases plan env c.bootstrap.configDir c.primaryUrl <;> rfl

structure IsBuilt (c : Config) (env : Environment) (b : Bootstrap) : Prop where
  config : b.config = c
  valid : c.validate = .ok ()
  header : c.explicitHeader = .ok b.explicitHeader
  plan : Prelaunch.plan env c.bootstrap.configDir c.primaryUrl = .ok b.artifacts
  client : Http.Client.make c.http = .ok b.client

theorem IsBuilt.configDir_isEmpty {c : Config} {env : Environment} {b : Bootstrap}
    (h : IsBuilt c env b) : b.config.bootstrap.configDir.isEmpty = false := by
  rw [h.config]
  exact Config.configDir_of_validate h.valid

theorem built_eq_ok {c : Config} {env : Environment} {b : Bootstrap}
    (h : built c env = .ok b) : IsBuilt c env b := by
  unfold built at h
  split at h
  · cases h
  · split at h
    · cases h
    · split at h
      · cases h
      · split at h
        · cases h
        · rename_i client hclient _ hvalid _ header hheader _ artifacts hplan
          obtain rfl := Except.ok.inj h
          exact ⟨rfl, hvalid, hheader, hplan, hclient⟩

theorem isBuilt_of_make {c : Config} {env : Environment} {b : Bootstrap} {p : Progress}
    (h : ((make c env).run p).1 = .ok b) : IsBuilt c env b := by
  obtain ⟨events, hrun⟩ := run_make c env p
  rw [hrun] at h
  exact built_eq_ok h

/-! A bootstrap with keys and two downloads, on a machine whose network grants a token for the keys
and knows the first of the downloads only. -/

def sampleConfig : Config where
  bootstrap := { configDir := .ofText "/d" }
  account := { authUrl := "http://p/", keyId := some "k", applicationKey := some "s" }

def sampleEnvironment : Environment :=
  .ofPairs [(Utf8.encode "CONFIG_URL_A", Utf8.encode "http://h/a"),
    (Utf8.encode "HANDLER_URL_B", Utf8.encode "http://h/b")]

def samplePlan : List ArtifactRequest :=
  [⟨"http://h/a", .ofText "/d/a.yaml", .config, "CONFIG_URL_A"⟩,
    ⟨"http://h/b", .ofText "/d/b_handler.py", .handler, "HANDLER_URL_B"⟩]

def sample : Bootstrap :=
  ⟨sampleConfig, none, samplePlan, ⟨Utf8.encode "bootfetch/0.1.0", 10, ⟨10, none⟩⟩⟩

def sampleScheme : ProviderScheme :=
  ⟨⟨"authorization", Utf8.encode "t", true⟩, some "http://h", Grant.providerDomain⟩

def sampleReply (u : Url) : Http.Reply :=
  if u.hostText? = some "p" then
    .answered ⟨200, [],
      Utf8.encode "\x7b\"authorizationToken\":\"t\",\"downloadUrl\":\"http://h\"\x7d", .whole⟩
  else if u.path = .segments ["a"] then .answered ⟨200, [], Utf8.encode "a: 1", .whole⟩
  else .answered ⟨404, [], [], .whole⟩

def sampleMachine : Machine where
  network := { reply := fun _ r => sampleReply r.url }
  workingDir := []

end Bootstrap

end Prelaunch
