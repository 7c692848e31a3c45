import Prelaunch.Path

/-!
The settings of a run, in the groups in which a settings file holds them. Secrets and the URL of the
primary configuration stand beside the groups, since no file sets them.
-/

namespace Prelaunch

structure BootstrapSettings where
  configDir : Path := .ofText "/app/config"
  entrypoint : String := "litellm"
  modulePathVar : String := "PYTHONPATH"
  deriving DecidableEq, Repr

/-- Times are in seconds. -/
structure HttpSettings where
  connectTimeout : Nat := 10
  requestTimeout : Option Nat := none
  maxRedirects : Nat := 10
  userAgent : String := "bootfetch/0.1.0"
  deriving DecidableEq, Repr

structure AccountSettings where
  authUrl : String := "https://api.backblazeb2.com/b2api/v2/b2_authorize_account"
  keyId : Option String := none
  applicationKey : Option String := none
  deriving DecidableEq, Repr

structure Config where
  bootstrap : BootstrapSettings := {}
  http : HttpSettings := {}
  account : AccountSettings := {}
  authHeader : Option String := none
  primaryUrl : Option String := none
  deriving DecidableEq, Repr

/-- Both halves of the key pair, if both are set. -/
def AccountSettings.credentials? (s : AccountSettings) : Option (String × String) :=
  match s.keyId, s.applicationKey with
  | some id, some key => some (id, key)
  | _, _ => none

end Prelaunch
