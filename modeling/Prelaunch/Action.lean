import Prelaunch.Event
import Prelaunch.FileTree
import Prelaunch.Http.Client
import Prelaunch.Settings.File

/-!
Actions on a machine: they change its files, send requests and tell what they do. What has been done
stays done when an action fails.
-/

namespace Prelaunch

/-- What a machine gives to every action: its network and working directory, the order of its hash
tables, how its file system shows a directory, what other code reads of settings files, and the words
of that code for an answer that is no grant. -/
structure Machine where
  network : Http.Network
  workingDir : Location
  order : HashOrder := .asListed
  listing : FileTree.Listing := .plain
  readers : Settings.File.Readers := .none
  answerComplaint : Bytes → String := fun _ => "not a grant"

/-- How things stand: the files, the requests sent so far and the events told so far. -/
structure Progress where
  files : FileTree
  sent : List Http.Request := []
  events : List Event := []

abbrev Action (ε α : Type) := ExceptT ε (StateM Progress) α

namespace Action

variable {ε : Type}

def tell (level : Level) (message : String) (fields : List (String × String)) :
    Action ε Unit :=
  modify fun p => { p with events := p.events ++ [⟨level, message, fields⟩] }

def files : Action ε FileTree := return (← get).files

def setFiles (t : FileTree) : Action ε Unit := modify fun p => { p with files := t }

/-- Fails if the result is an error, under the name that `wrap` gives it. -/
def orFail {ε' α : Type} (wrap : ε' → ε) : Except ε' α → Action ε α
  | .ok a => pure a
  | .error e => throw (wrap e)

/-- Runs an action whose errors have another type. -/
def within {ε' α : Type} (wrap : ε' → ε) (a : Action ε' α) : Action ε α :=
  ExceptT.adapt wrap a

/-- Asks for the content of a URL. -/
def request (m : Machine) (c : Http.Client) (url : String) (extra : List Header) :
    Action Http.Failure Http.Response := do
  let exchange := c.get m.network url extra
  modify fun p => { p with sent := p.sent ++ exchange.sent }
  orFail id exchange.outcome

end Action

end Prelaunch
