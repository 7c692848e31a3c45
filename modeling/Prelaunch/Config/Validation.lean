import Prelaunch.Config
import Prelaunch.Header
import Prelaunch.Url

/-!
The conditions that settings must meet before anything is done with them.
-/

namespace Prelaunch

inductive CredentialHalf where
  | keyId
  | applicationKey
  deriving DecidableEq, Repr

/-- The variables that may set a half. -/
def CredentialHalf.variables : CredentialHalf → List String
  | .keyId => ["BACKBLAZE_KEY_ID", "B2_KEY_ID"]
  | .applicationKey => ["BACKBLAZE_APPLICATION_KEY", "B2_APPLICATION_KEY"]

def CredentialHalf.label (h : CredentialHalf) : String := "/".intercalate h.variables

inductive RequiredField where
  | configDir
  | entrypoint
  | modulePathVar
  deriving DecidableEq, Repr

def RequiredField.label : RequiredField → String
  | .configDir => "config_dir"
  | .entrypoint => "entrypoint"
  | .modulePathVar => "module_path_var"

inductive TimeoutField where
  | connect
  | request
  deriving DecidableEq, Repr

def TimeoutField.label : TimeoutField → String
  | .connect => "connect_timeout_secs"
  | .request => "request_timeout_secs"

inductive ValidationError where
  | partialCredentials (present missing : CredentialHalf)
  | invalidAuthUrl (url : String) (reason : UrlError)
  | invalidAuthHeader (cause : HeaderError)
  | emptyField (field : RequiredField)
  | zeroTimeout (field : TimeoutField)
  deriving DecidableEq, Repr

def ValidationError.message : ValidationError → String
  | .partialCredentials present missing =>
    present.label ++ " is set but " ++ missing.label ++
      " is not; set both Backblaze credentials or neither"
  | .invalidAuthUrl url reason =>
    "Backblaze authorize URL '" ++ url ++ "' is invalid: " ++ reason.message
  | .invalidAuthHeader cause => "AUTH_HEADER is malformed: " ++ cause.message
  | .emptyField field => "bootstrap." ++ field.label ++ " must not be empty"
  | .zeroTimeout field => "http." ++ field.label ++ " must be positive"

namespace Config

def checkAccount (s : AccountSettings) : Except ValidationError Unit :=
  match s.keyId, s.applicationKey with
  | some _, none => .error (.partialCredentials .keyId .applicationKey)
  | none, some _ => .error (.partialCredentials .applicationKey .keyId)
  | some _, some _ => match Url.parse s.authUrl with
    | .ok _ => .ok ()
    | .error reason => .error (.invalidAuthUrl s.authUrl reason)
  | none, none => .ok ()

/-- The operator's own header, if one is set. -/
def explicitHeader (c : Config) : Except ValidationError (Option Header) :=
  match c.authHeader with
  | none => .ok none
  | some raw => match Header.parse raw with
    | .ok header => .ok (some header)
    | .error cause => .error (.invalidAuthHeader cause)

def isBlank (s : String) : Bool := (Text.trim s).isEmpty

def checkBootstrap (s : BootstrapSettings) : Except ValidationError Unit :=
  if s.configDir.isEmpty then .error (.emptyField .configDir)
  else if isBlank s.entrypoint then .error (.emptyField .entrypoint)
  else if isBlank s.modulePathVar then .error (.emptyField .modulePathVar)
  else .ok ()

def checkHttp (s : HttpSettings) : Except ValidationError Unit :=
  if s.connectTimeout == 0 then .error (.zeroTimeout .connect)
  else if s.requestTimeout == some 0 then .error (.zeroTimeout .request)
  else .ok ()

/-- Reports the first condition that fails. -/
def validate (c : Config) : Except ValidationError Unit := do
  checkAccount c.account
  let _ ← c.explicitHeader
  checkBootstrap c.bootstrap
  checkHttp c.http

end Config

end Prelaunch
