import Prelaunch.Bootstrap
import Prelaunch.EnvFile

/-!
The program as a whole: it prepares the working directory and hands over, or reports why it cannot.
A variable that cannot be set stops it before it has begun, without a report of its own.
-/

namespace Prelaunch.Cli

/-- How the program ends. -/
inductive Outcome where
  | handedOver (invocation : Invocation)
  | failed (error : BootstrapError)
  | aborted
  deriving DecidableEq

namespace Outcome

/-- The exit code, given what other programs end with. -/
def exitCode (ends : Invocation → Nat) : Outcome → Nat
  | .handedOver invocation => ends invocation
  | .failed _ => 1
  | .aborted => 101

/-- What is reported to the user. -/
def report? : Outcome → Option String
  | .failed error => some ("bootfetch: " ++ error.message)
  | _ => none

def invocation? : Outcome → Option Invocation
  | .handedOver invocation => some invocation
  | _ => none

end Outcome

def handOver (m : Machine) (vars : Variables) (launch : Launch) :
    Action BootstrapError Invocation := do
  Action.tell .info "Handing over to downstream process" [("program", launch.program)]
  Action.orFail .launch (launch.exec (← Action.files) m.workingDir vars)

/-- Every argument belongs to the program that takes over. -/
def attempt (m : Machine) (args : List Bytes) (vars : Variables) :
    Action BootstrapError Invocation := do
  let prepared ← Bootstrap.run m args (.ofPairs vars.entries)
  handOver m vars prepared.launch

def run (m : Machine) (args : List Bytes) (inherited : Variables) (start : Progress) :
    Outcome × Progress :=
  match EnvFile.load? start.files m.workingDir inherited with
  | none => (.aborted, start)
  | some vars => match (attempt m args vars).run start with
    | (.ok invocation, p) => (.handedOver invocation, p)
    | (.error e, p) => (.failed e, p)

end Prelaunch.Cli
