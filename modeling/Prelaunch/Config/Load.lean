import Prelaunch.Action
import Prelaunch.Artifact.Plan
import Prelaunch.Config.Validation
import Prelaunch.Settings.File
import Prelaunch.Settings.Override

/-!
The settings of a run from all their sources. A settings file goes over the defaults, overrides go
over the file, and the variables of the deployment go over both. Secrets come from these variables
only.
-/

namespace Prelaunch

inductive ConfigError where
  | load (cause : LoadError)
  | validation (cause : ValidationError)
  deriving DecidableEq, Repr

def ConfigError.message : ConfigError → String
  | .load cause => cause.message
  | .validation cause => "Configuration validation failed: " ++ cause.message

namespace Config

open Settings

def bootstrapFields : List (Slot BootstrapSettings) :=
  [.of "config_dir" (·.text.map Path.ofText) fun s v => { s with configDir := v },
    .of "entrypoint" Named.text fun s v => { s with entrypoint := v },
    .of "module_path_var" Named.text fun s v => { s with modulePathVar := v }]

def httpFields : List (Slot HttpSettings) :=
  [.of "connect_timeout_secs" Named.count fun s v => { s with connectTimeout := v },
    .of "request_timeout_secs" Named.optionalCount fun s v => { s with requestTimeout := v },
    .of "max_redirects" Named.count fun s v => { s with maxRedirects := v },
    .of "user_agent" Named.text fun s v => { s with userAgent := v }]

def accountFields : List (Slot AccountSettings) :=
  [.of "auth_url" Named.text fun s v => { s with authUrl := v }]

/-- Each group is a field of all settings. -/
def groupFields (o : HashOrder) : List (Slot Config) :=
  [.of "bootstrap" (Group.read o "bootstrap" "BootstrapConfig" bootstrapFields {} ·.tree)
      fun c s => { c with bootstrap := s },
    .of "http" (Group.read o "http" "HttpConfig" httpFields {} ·.tree)
      fun c s => { c with http := s },
    .of "b2" (Group.read o "b2" "B2Config" accountFields {} ·.tree)
      fun c s => { c with account := s }]

def ofTree (o : HashOrder) (root : Tree) : Except LoadError Config :=
  Group.readInto {} (Group.inTable o .settings id (groupFields o) root.entriesOf)

/-- The settings of a file with the overrides over them. -/
def ofSources (o : HashOrder) (file : Source) (env : Environment) : Except LoadError Config :=
  ofTree o (join [o.entries .file file, Override.source o env])

/-- The settings with the variables of the deployment over them. An empty variable sets nothing. -/
def deployed (c : Config) (env : Environment) : Config :=
  { c with
    bootstrap := { c.bootstrap with
      configDir := ((env.nonEmpty? "CONFIG_DIR").map Path.ofText).getD c.bootstrap.configDir }
    account := {
      authUrl := (env.nonEmpty? "BACKBLAZE_AUTH_URL").getD c.account.authUrl
      keyId := env.firstNonEmpty? CredentialHalf.keyId.variables
      applicationKey := env.firstNonEmpty? CredentialHalf.applicationKey.variables }
    authHeader := env.nonEmpty? "AUTH_HEADER"
    primaryUrl := env.nonEmpty? Plan.primaryVariable }

def checked (c : Config) : Action ConfigError Config := do
  Action.orFail .validation c.validate
  return c

def tellSource (path : Path) (isThere : Bool) : Action ConfigError Unit :=
  if isThere then Action.tell .info ("Loading configuration from: " ++ path.display) []
  else Action.tell .debug ("Configuration file not found at " ++ path.display ++
    ", using defaults and environment overrides") []

/-- What the file at a path gives, if there is one. -/
def sourceAt (m : Machine) (files : FileTree) (path : Path) : Except LoadError Source :=
  if files.doesExist m.workingDir path then File.load m.order m.readers files m.workingDir path
  else .ok []

/-- The settings of the file at a path with the overrides over them. -/
def settingsAt (m : Machine) (files : FileTree) (path : Path) (env : Environment) :
    Except LoadError Config := do
  ofSources m.order (← sourceAt m files path) env

def readSources (m : Machine) (path : Path) (env : Environment) : Action ConfigError Config := do
  let files ← Action.files
  tellSource path (files.doesExist m.workingDir path)
  Action.orFail .load (settingsAt m files path env)

/-- The settings from one file and the overrides alone. -/
def loadFrom (m : Machine) (path : Path) (env : Environment) : Action ConfigError Config := do
  checked (← readSources m path env)

def defaultPath : String := "bootfetch.toml"

def pathFrom (env : Environment) : Path :=
  .ofText ((env.nonEmpty? "BOOTFETCH_CONFIG").getD defaultPath)

def load (m : Machine) (env : Environment) : Action ConfigError Config := do
  checked ((← readSources m (pathFrom env) env).deployed env)

end Config

end Prelaunch
