import Prelaunch.Account
import Prelaunch.Artifact.Plan
import Prelaunch.Config.Load
import Prelaunch.Download
import Prelaunch.Launch

/-!
Everything that comes before the hand-over, strictly in order: the plan, the working directory, the
grant of the storage provider if its keys are set, the downloads, a look at the directory, and the
invocation. The first failure ends it, and nothing is tried twice.
-/

namespace Prelaunch

inductive BootstrapError where
  | configuration (cause : ConfigError)
  | invalidConfig (cause : ValidationError)
  | artifact (cause : UnusableName)
  | httpClient (cause : Http.Failure)
  | workingDirectory (path : Path) (cause : FileError)
  | authorization (cause : AuthorizationError)
  | fetch (cause : FetchError)
  | launch (cause : LaunchError)
  deriving DecidableEq, Repr

def BootstrapError.message : BootstrapError → String
  | .configuration cause => "configuration error: " ++ cause.message
  | .invalidConfig cause => "configuration error: " ++ cause.message
  | .artifact cause => "configuration error: " ++ cause.message
  | .httpClient cause => "failed to initialise HTTP client: " ++ cause.message
  | .workingDirectory path cause =>
    "working directory " ++ path.display ++ " is unusable: " ++ cause.message
  | .authorization cause => "authorization failed: " ++ cause.message
  | .fetch cause => "fetch failed: " ++ cause.message
  | .launch cause => "launch failed: " ++ cause.message

structure FetchedArtifact where
  kind : ArtifactKind
  path : Path
  bytes : Nat
  deriving DecidableEq, Repr

/-- A bootstrap that is complete but for the hand-over. -/
structure Prepared where
  fetched : List FetchedArtifact
  launch : Launch
  deriving DecidableEq, Repr

structure Bootstrap where
  config : Config
  explicitHeader : Option Header
  artifacts : List ArtifactRequest
  client : Http.Client
  deriving DecidableEq, Repr

namespace Bootstrap

def tellVacant (env : Environment) : Action BootstrapError Unit :=
  (Plan.vacant env).forM fun name =>
    Action.tell .debug "Skipping empty artifact URL" [("variable", name)]

/-- Checks the settings and makes the plan. -/
def make (c : Config) (env : Environment) : Action BootstrapError Bootstrap := do
  let client ← Action.orFail .httpClient (Http.Client.make c.http)
  Action.orFail .invalidConfig c.validate
  let header ← Action.orFail .invalidConfig c.explicitHeader
  tellVacant env
  let artifacts ← Action.orFail .artifact (plan env c.bootstrap.configDir c.primaryUrl)
  return ⟨c, header, artifacts, client⟩

def ensureWorkingDirectory (m : Machine) (dir : Path) : Action BootstrapError Unit := do
  let (files, result) := (← Action.files).ensureDirectory m.workingDir dir
  Action.setFiles files
  Action.orFail (.workingDirectory dir) result

/-- The scheme for the provider's URLs, if there are keys to ask for a grant with. -/
def providerScheme (b : Bootstrap) (m : Machine) :
    Action BootstrapError (Option ProviderScheme) := do
  match b.config.account.credentials? with
  | none => return none
  | some (keyId, applicationKey) =>
    if b.explicitHeader.isSome then
      Action.tell .info "AUTH_HEADER is set and takes precedence over the Backblaze token" []
    let grant ← (authorize m b.client b.config.account.authUrl keyId applicationKey).within
      .authorization
    some <$> Action.orFail .authorization grant.scheme

def fetchOne (b : Bootstrap) (m : Machine) (broker : Broker) (r : ArtifactRequest) :
    Action BootstrapError FetchedArtifact := do
  let choice := broker.choose r.url
  Action.tell .info "Fetching artifact"
    [("kind", r.kind.label), ("variable", r.source), ("url", r.url), ("path", r.path.display),
      ("auth", choice.label)]
  let bytes ← (Download.fetch m b.client r.url r.path choice.header?).within .fetch
  return ⟨r.kind, r.path, bytes⟩

def tellDirectory (m : Machine) (dir : Path) : Action BootstrapError Unit := do
  match (← Action.files).list m.listing m.workingDir dir with
  | .error e =>
    Action.tell .warn "Cannot list working directory" [("path", dir.display), ("error", e.message)]
  | .ok [] => Action.tell .warn "Working directory is empty" [("path", dir.display)]
  | .ok entries =>
    entries.forM fun (name, size) =>
      Action.tell .info "Working directory entry"
        [("file", Utf8.lossy name), ("size", Nat.repr size)]

def totalBytes (fetched : List FetchedArtifact) : Nat := fetched.foldl (· + ·.bytes) 0

/-- Everything up to the hand-over. The arguments go to the program as they are. -/
def prepare (b : Bootstrap) (m : Machine) (args : List Bytes) (env : Environment) :
    Action BootstrapError Prepared := do
  let dir := b.config.bootstrap.configDir
  ensureWorkingDirectory m dir
  let provider ← b.providerScheme m
  let broker : Broker := ⟨b.explicitHeader, provider⟩
  let fetched ← b.artifacts.mapM (b.fetchOne m broker)
  Action.tell .info "All artifacts fetched"
    [("count", Nat.repr fetched.length), ("bytes", Nat.repr (totalBytes fetched))]
  tellDirectory m dir
  let launch ← Action.orFail .launch (Launch.make b.config.bootstrap args env)
  Action.tell .debug "Downstream environment prepared"
    [("var", launch.modulePathVar), ("value", Utf8.lossy launch.modulePath)]
  return ⟨fetched, launch⟩

/-- The whole run: settings, plan, and everything up to the hand-over. -/
def run (m : Machine) (args : List Bytes) (env : Environment) : Action BootstrapError Prepared := do
  let config ← (Config.load m env).within .configuration
  let b ← make config env
  b.prepare m args env

end Bootstrap

end Prelaunch
