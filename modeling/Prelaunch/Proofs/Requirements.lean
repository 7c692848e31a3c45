import Mathlib.Data.List.DropRight
import Prelaunch.Proofs.Construction
import Prelaunch.Proofs.SecretSources

/-!
What settings must be like to be of use. Validation is one check for each requirement, in a fixed
order, and the first that is not met is reported. Settings that have been loaded meet them all, so a
bootstrap with them can fail only for its client or its plan.
-/

namespace Prelaunch

/-! Blank texts. -/

theorem Text.trim_eq_empty_iff {s : String} :
    trim s = "" ↔ ∀ c ∈ s.toList, isBlank c = true := by
  rw [trim, String.ofList_eq_empty_iff]
  calc trimEnd (trimStart s.toList) = []
      ↔ ∀ c ∈ trimStart s.toList, isBlank c = true := List.rdropWhile_eq_nil_iff
    _ ↔ (trimStart s.toList).dropWhile isBlank = [] := List.dropWhile_eq_nil_iff.symm
    _ ↔ trimStart s.toList = [] := by rw [trimStart, List.dropWhile_idempotent]
    _ ↔ ∀ c ∈ s.toList, isBlank c = true := List.dropWhile_eq_nil_iff

namespace Config

theorem isBlank_iff {s : String} : isBlank s = true ↔ ∀ c ∈ s.toList, Text.isBlank c = true := by
  rw [isBlank, String.isEmpty_iff, Text.trim_eq_empty_iff]

theorem isBlank_eq_false_iff {s : String} :
    isBlank s = false ↔ ∃ c ∈ s.toList, Text.isBlank c = false := by
  rw [← Bool.not_eq_true, isBlank_iff]
  simp

/-! Requirements. -/

/-- What is required of settings, in the order in which it is checked. -/
inductive Requirement where
  | credentials
  | ownHeader
  | configDir
  | entrypoint
  | modulePathVar
  | connectTimeout
  | requestTimeout
  deriving DecidableEq, Repr

def Requirement.all : List Requirement :=
  [.credentials, .ownHeader, .configDir, .entrypoint, .modulePathVar, .connectTimeout,
    .requestTimeout]

theorem Requirement.mem_all (r : Requirement) : r ∈ all := by
  cases r <;> decide

variable {c : Config}

def IsMet (c : Config) : Requirement → Prop
  | .credentials => (c.account.keyId.isSome ↔ c.account.applicationKey.isSome) ∧
      (c.account.keyId.isSome → ∃ url, Url.parse c.account.authUrl = .ok url)
  | .ownHeader => ∀ raw, c.authHeader = some raw → ∃ header, Header.parse raw = .ok header
  | .configDir => c.bootstrap.configDir.bytes ≠ []
  | .entrypoint => ∃ ch ∈ c.bootstrap.entrypoint.toList, Text.isBlank ch = false
  | .modulePathVar => ∃ ch ∈ c.bootstrap.modulePathVar.toList, Text.isBlank ch = false
  | .connectTimeout => 1 ≤ c.http.connectTimeout
  | .requestTimeout => c.http.requestTimeout ≠ some 0

/-- What is said of a requirement that is not met. -/
inductive Reports (c : Config) : Requirement → ValidationError → Prop where
  | onlyKeyId (hid : c.account.keyId.isSome) (hkey : c.account.applicationKey = none) :
      Reports c .credentials (.partialCredentials .keyId .applicationKey)
  | onlyApplicationKey (hid : c.account.keyId = none) (hkey : c.account.applicationKey.isSome) :
      Reports c .credentials (.partialCredentials .applicationKey .keyId)
  | authUrl {reason} (hid : c.account.keyId.isSome) (hkey : c.account.applicationKey.isSome)
      (hurl : Url.parse c.account.authUrl = .error reason) :
      Reports c .credentials (.invalidAuthUrl c.account.authUrl reason)
  | ownHeader {raw cause} (hraw : c.authHeader = some raw) (hparse : Header.parse raw = .error cause) :
      Reports c .ownHeader (.invalidAuthHeader cause)
  | configDir (h : c.bootstrap.configDir.bytes = []) : Reports c .configDir (.emptyField .configDir)
  | entrypoint (h : ∀ ch ∈ c.bootstrap.entrypoint.toList, Text.isBlank ch = true) :
      Reports c .entrypoint (.emptyField .entrypoint)
  | modulePathVar (h : ∀ ch ∈ c.bootstrap.modulePathVar.toList, Text.isBlank ch = true) :
      Reports c .modulePathVar (.emptyField .modulePathVar)
  | connectTimeout (h : c.http.connectTimeout = 0) :
      Reports c .connectTimeout (.zeroTimeout .connect)
  | requestTimeout (h : c.http.requestTimeout = some 0) :
      Reports c .requestTimeout (.zeroTimeout .request)

/-! Checks. -/

def refuseIf (isUnmet : Bool) (e : ValidationError) : Except ValidationError Unit :=
  if isUnmet then .error e else .ok ()

theorem refuseIf_eq_ok {isUnmet : Bool} {e : ValidationError} :
    refuseIf isUnmet e = .ok () ↔ isUnmet = false := by
  cases isUnmet <;> simp [refuseIf]

theorem refuseIf_eq_error {isUnmet : Bool} {e e' : ValidationError} :
    refuseIf isUnmet e = .error e' ↔ isUnmet = true ∧ e' = e := by
  cases isUnmet <;> simp [refuseIf, eq_comm]

theorem refuseIf_bind (isUnmet : Bool) (e : ValidationError) (rest : Except ValidationError Unit) :
    (refuseIf isUnmet e >>= fun _ => rest) = if isUnmet then .error e else rest := by
  cases isUnmet <;> rfl

/-- The check of one requirement. -/
def check (c : Config) : Requirement → Except ValidationError Unit
  | .credentials => checkAccount c.account
  | .ownHeader => do let _ ← c.explicitHeader
  | .configDir => refuseIf c.bootstrap.configDir.isEmpty (.emptyField .configDir)
  | .entrypoint => refuseIf (isBlank c.bootstrap.entrypoint) (.emptyField .entrypoint)
  | .modulePathVar => refuseIf (isBlank c.bootstrap.modulePathVar) (.emptyField .modulePathVar)
  | .connectTimeout => refuseIf (c.http.connectTimeout == 0) (.zeroTimeout .connect)
  | .requestTimeout => refuseIf (c.http.requestTimeout == some 0) (.zeroTimeout .request)

theorem checkBootstrap_eq (c : Config) :
    checkBootstrap c.bootstrap =
      (do c.check .configDir; c.check .entrypoint; c.check .modulePathVar) := by
  simp only [check, refuseIf_bind]
  rfl

theorem checkHttp_eq (c : Config) :
    checkHttp c.http = (do c.check .connectTimeout; c.check .requestTimeout) := by
  simp only [check, refuseIf_bind]
  rfl

/-- Validation checks the requirements one after the other. -/
theorem validate_eq_mapM (c : Config) :
    c.validate = Requirement.all.mapM c.check >>= fun _ => pure () := by
  have hcredentials : checkAccount c.account = c.check .credentials := rfl
  have hheader (rest : Except ValidationError Unit) :
      (c.explicitHeader >>= fun _ => rest) = c.check .ownHeader >>= fun _ => rest := by
    rw [check, bind_assoc]
    rfl
  rw [validate, hcredentials, hheader, checkBootstrap_eq, checkHttp_eq]
  simp only [Requirement.all, List.mapM_cons, List.mapM_nil, bind_assoc, pure_bind, bind_pure_unit]

theorem explicitHeader_eq_error {e : ValidationError} :
    c.explicitHeader = .error e ↔ ∃ raw cause, c.authHeader = some raw ∧
      Header.parse raw = .error cause ∧ e = .invalidAuthHeader cause := by
  unfold explicitHeader
  cases c.authHeader with
  | none => simp
  | some raw => cases hparse : Header.parse raw <;> simp [hparse, eq_comm]

theorem check_eq_ok {r : Requirement} : c.check r = .ok () ↔ c.IsMet r := by
  cases r with
  | credentials =>
      simp only [check, checkAccount, IsMet]
      cases c.account.keyId <;> cases c.account.applicationKey <;>
        cases Url.parse c.account.authUrl <;> simp
  | ownHeader =>
      simp only [check, explicitHeader, IsMet]
      cases c.authHeader with
      | none => simp
      | some raw => cases hparse : Header.parse raw <;> simp [hparse]
  | configDir => simp [check, refuseIf_eq_ok, Path.isEmpty, IsMet]
  | entrypoint => rw [check, refuseIf_eq_ok, isBlank_eq_false_iff, IsMet]
  | modulePathVar => rw [check, refuseIf_eq_ok, isBlank_eq_false_iff, IsMet]
  | connectTimeout => simp [check, refuseIf_eq_ok, IsMet, Nat.one_le_iff_ne_zero]
  | requestTimeout => simp [check, refuseIf_eq_ok, IsMet]

theorem reports_of_check {r : Requirement} {e : ValidationError} (h : c.check r = .error e) :
    c.Reports r e := by
  cases r with
  | credentials =>
      simp only [check, checkAccount] at h
      split at h
      · rename_i hid hkey
        obtain rfl := Except.error.inj h
        exact .onlyKeyId (Option.isSome_of_eq_some hid) hkey
      · rename_i hid hkey
        obtain rfl := Except.error.inj h
        exact .onlyApplicationKey hid (Option.isSome_of_eq_some hkey)
      · rename_i hid hkey
        split at h
        · cases h
        · rename_i hurl
          obtain rfl := Except.error.inj h
          exact .authUrl (Option.isSome_of_eq_some hid) (Option.isSome_of_eq_some hkey) hurl
      · cases h
  | ownHeader =>
      obtain herror | ⟨-, -, h⟩ := bind_eq_error.1 h
      · obtain ⟨raw, cause, hraw, hparse, rfl⟩ := explicitHeader_eq_error.1 herror
        exact .ownHeader hraw hparse
      · cases h
  | configDir =>
      obtain ⟨hempty, rfl⟩ := refuseIf_eq_error.1 h
      exact .configDir (List.isEmpty_iff.1 hempty)
  | entrypoint =>
      obtain ⟨hblank, rfl⟩ := refuseIf_eq_error.1 h
      exact .entrypoint (isBlank_iff.1 hblank)
  | modulePathVar =>
      obtain ⟨hblank, rfl⟩ := refuseIf_eq_error.1 h
      exact .modulePathVar (isBlank_iff.1 hblank)
  | connectTimeout =>
      obtain ⟨hzero, rfl⟩ := refuseIf_eq_error.1 h
      exact .connectTimeout (eq_of_beq hzero)
  | requestTimeout =>
      obtain ⟨hzero, rfl⟩ := refuseIf_eq_error.1 h
      exact .requestTimeout (eq_of_beq hzero)

theorem check_of_reports {r : Requirement} {e : ValidationError} (h : c.Reports r e) :
    c.check r = .error e := by
  cases h with
  | onlyKeyId hid hkey =>
      obtain ⟨id, hid⟩ := Option.isSome_iff_exists.1 hid
      simp [check, checkAccount, hid, hkey]
  | onlyApplicationKey hid hkey =>
      obtain ⟨key, hkey⟩ := Option.isSome_iff_exists.1 hkey
      simp [check, checkAccount, hid, hkey]
  | authUrl hid hkey hurl =>
      obtain ⟨id, hid⟩ := Option.isSome_iff_exists.1 hid
      obtain ⟨key, hkey⟩ := Option.isSome_iff_exists.1 hkey
      simp [check, checkAccount, hid, hkey, hurl]
  | ownHeader hraw hparse =>
      have herror := explicitHeader_eq_error.2 ⟨_, _, hraw, hparse, rfl⟩
      exact bind_eq_error.2 (.inl herror)
  | configDir hempty => exact refuseIf_eq_error.2 ⟨List.isEmpty_iff.2 hempty, rfl⟩
  | entrypoint hblank => exact refuseIf_eq_error.2 ⟨isBlank_iff.2 hblank, rfl⟩
  | modulePathVar hblank => exact refuseIf_eq_error.2 ⟨isBlank_iff.2 hblank, rfl⟩
  | connectTimeout hzero => exact refuseIf_eq_error.2 ⟨beq_iff_eq.2 hzero, rfl⟩
  | requestTimeout hzero => exact refuseIf_eq_error.2 ⟨beq_iff_eq.2 hzero, rfl⟩

theorem validate_eq_ok_iff_isMet : c.validate = .ok () ↔ ∀ r, c.IsMet r := by
  rw [validate_eq_mapM, bind_eq_ok]
  constructor
  · rintro ⟨done, hdone, -⟩ r
    obtain ⟨u, hcheck⟩ := exists_of_mapM_eq_ok hdone r.mem_all
    exact check_eq_ok.1 hcheck
  · intro hmet
    exact ⟨_, mapM_eq_ok_of_forall fun r _ => check_eq_ok.2 (hmet r), rfl⟩

/-- Validation reports the first requirement that is not met. -/
theorem validate_eq_error_iff {e : ValidationError} :
    c.validate = .error e ↔ ∃ before r after, Requirement.all = before ++ r :: after ∧
      (∀ r' ∈ before, c.IsMet r') ∧ c.Reports r e := by
  rw [validate_eq_mapM, bind_eq_error]
  have hok (r : Requirement) : (∃ u, c.check r = .ok u) ↔ c.IsMet r :=
    ⟨fun ⟨_, h⟩ => check_eq_ok.1 h, fun h => ⟨(), check_eq_ok.2 h⟩⟩
  have herror (r : Requirement) : c.check r = .error e ↔ c.Reports r e :=
    ⟨reports_of_check, check_of_reports⟩
  simp only [mapM_eq_error_iff, hok, herror]
  exact or_iff_left (by rintro ⟨_, _, h⟩; cases h)

theorem not_isMet_iff {r : Requirement} : ¬ c.IsMet r ↔ ∃ e, c.Reports r e := by
  rw [← check_eq_ok]
  constructor
  · intro hnot
    cases hcheck : c.check r with
    | ok u => exact absurd hcheck hnot
    | error e => exact ⟨e, reports_of_check hcheck⟩
  · rintro ⟨e, he⟩ hok
    rw [check_of_reports he] at hok
    cases hok

/-! Loading. -/

/-- Settings that some run has loaded, with the variables of the deployment or without them. -/
inductive IsLoaded (c : Config) : Prop where
  | load {m env p} (h : ((load m env).run p).1 = .ok c)
  | loadFrom {m path env p} (h : ((loadFrom m path env).run p).1 = .ok c)

theorem validate_of_checked {c' : Config} {p : Progress} (h : ((checked c').run p).1 = .ok c) :
    c.validate = .ok () := by
  obtain rfl := run_checked_eq_ok h
  unfold checked at h
  obtain ⟨u, q, hvalid, -⟩ := Action.run_bind_eq_ok h
  exact Action.run_orFail_eq_ok (congrArg Prod.fst hvalid)

theorem IsLoaded.validate (h : c.IsLoaded) : c.validate = .ok () := by
  cases h with
  | load h =>
      obtain ⟨c', q, -, h⟩ := Action.run_bind_eq_ok h
      exact validate_of_checked h
  | loadFrom h =>
      obtain ⟨c', q, -, h⟩ := Action.run_bind_eq_ok h
      exact validate_of_checked h

end Config

/-- A bootstrap with valid settings fails only for its client or its plan. -/
theorem Bootstrap.error_of_make {c : Config} {env : Environment} {p : Progress} {e : BootstrapError}
    (hvalid : c.validate = .ok ()) (h : ((make c env).run p).1 = .error e) :
    (∃ cause, Http.Client.make c.http = .error cause ∧ e = .httpClient cause) ∨
      ∃ cause, plan env c.bootstrap.configDir c.primaryUrl = .error cause ∧ e = .artifact cause := by
  obtain ⟨-, ⟨header, hheader⟩, -, -⟩ := Config.validate_eq_ok.1 hvalid
  obtain ⟨events, hrun⟩ := run_make c env p
  rw [hrun] at h
  obtain hclient | ⟨cause, hinvalid | hinvalid, -⟩ | hplan := built_eq_error h
  · exact .inl hclient
  · rw [hvalid] at hinvalid
    cases hinvalid
  · rw [hheader] at hinvalid
    cases hinvalid
  · exact .inr hplan

/-- Settings that have been loaded meet every requirement, however the files and variables spelled
them, and a bootstrap with them, in whatever environment, fails only for its client or its plan.
Validation accepts just the settings that meet them all, and reports the first that is not met. -/
theorem loaded_settings_are_usable :
    (∀ c : Config, c.IsLoaded → (∀ r, c.IsMet r) ∧
      ∀ env p e, ((Bootstrap.make c env).run p).1 = .error e →
        (∃ cause, Http.Client.make c.http = .error cause ∧ e = .httpClient cause) ∨
          ∃ cause, plan env c.bootstrap.configDir c.primaryUrl = .error cause ∧
            e = .artifact cause) ∧
    ∀ c : Config, (c.validate = .ok () ↔ ∀ r, c.IsMet r) ∧
      (∀ e, c.validate = .error e ↔ ∃ before r after,
        [.credentials, .ownHeader, .configDir, .entrypoint, .modulePathVar, .connectTimeout,
          .requestTimeout] = before ++ r :: after ∧
        (∀ r' ∈ before, c.IsMet r') ∧ c.Reports r e) ∧
      ∀ r, ¬ c.IsMet r ↔ ∃ e, c.Reports r e := by
  refine ⟨fun c hloaded => ⟨?_, fun env p e hmake => ?_⟩, fun c => ⟨?_, fun e => ?_, fun r => ?_⟩⟩
  · exact Config.validate_eq_ok_iff_isMet.1 hloaded.validate
  · exact Bootstrap.error_of_make hloaded.validate hmake
  · exact Config.validate_eq_ok_iff_isMet
  · exact Config.validate_eq_error_iff
  · exact Config.not_isMet_iff

/-! Times that are spelled as a fraction and as a truth value, beside a variable that asks for a
download without a name. -/

namespace Config

def oddVariables : Environment :=
  .ofPairs [(Utf8.encode "BOOTFETCH__HTTP__REQUEST_TIMEOUT_SECS", Utf8.encode "true"),
    (Utf8.encode "CONFIG_URL_", Utf8.encode "http://h/a")]

def fractionalTimeout : Progress :=
  Secrets.withFile "bootfetch.toml" "[http]\nconnect_timeout_secs = 0.5"

end Config

theorem loaded_settings_are_usable_sample :
    ∃ c, ((Config.load Bootstrap.sampleMachine Config.oddVariables).run
        Config.fractionalTimeout).1 = .ok c ∧
      c.http.connectTimeout = 1 ∧ c.http.requestTimeout = some 1 ∧ (∀ r, c.IsMet r) ∧
      ((Bootstrap.make c Config.oddVariables).run { files := .empty }).1 =
        .error (.artifact ⟨"CONFIG_URL_", ""⟩) ∧
      plan Config.oddVariables c.bootstrap.configDir c.primaryUrl = .error ⟨"CONFIG_URL_", ""⟩ := by
  have hload : ((Config.load Bootstrap.sampleMachine Config.oddVariables).run
      Config.fractionalTimeout).1 =
        .ok { http := { connectTimeout := 1, requestTimeout := some 1 } } := by
    decide +kernel
  have hmake : ((Bootstrap.make { http := { connectTimeout := 1, requestTimeout := some 1 } }
      Config.oddVariables).run { files := .empty }).1 =
        .error (.artifact ⟨"CONFIG_URL_", ""⟩) := by
    decide +kernel
  obtain ⟨hmet, hfails⟩ := loaded_settings_are_usable.1 _ (.load hload)
  refine ⟨_, hload, rfl, rfl, hmet, hmake, ?_⟩
  obtain ⟨cause, -, hcause⟩ | ⟨cause, hplan, hcause⟩ := hfails _ _ _ hmake
  · cases hcause
  · obtain rfl := BootstrapError.artifact.inj hcause
    exact hplan

/-- A time that is rounded to nothing is refused. -/
example :
    ((Config.load Bootstrap.sampleMachine Config.oddVariables).run
      (Secrets.withFile "bootfetch.toml" "[http]\nconnect_timeout_secs = 0.4")).1 =
        .error (.validation (.zeroTimeout .connect)) := by
  decide +kernel

end Prelaunch
