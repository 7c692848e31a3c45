/-!
What a run tells about itself as it goes along.
-/

namespace Prelaunch

inductive Level where
  | debug
  | info
  | warn
  deriving DecidableEq, Repr

def Level.label : Level → String
  | .debug => "DEBUG"
  | .info => "INFO"
  | .warn => "WARN"

structure Event where
  level : Level
  message : String
  fields : List (String × String) := []
  deriving DecidableEq, Repr

end Prelaunch
