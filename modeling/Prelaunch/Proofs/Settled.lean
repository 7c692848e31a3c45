import Prelaunch.Bootstrap
import Prelaunch.Proofs.Action

/-!
Settings that are read the same in whatever order hash tables give their entries. Nothing else in a
run goes by this order, so such a run does the same in every order.
-/

namespace Prelaunch

/-- The machine with its hash tables in another order. -/
def Machine.ordered (m : Machine) (o : HashOrder) : Machine := { m with order := o }

variable {m : Machine} {o : HashOrder} {env : Environment} {p : Progress}

namespace Config

/-- What is read for a path is the same in both orders. -/
def IsReadAlike (m : Machine) (o : HashOrder) (files : FileTree) (path : Path)
    (env : Environment) : Prop :=
  settingsAt (m.ordered o) files path env = settingsAt m files path env

theorem run_readSources (m : Machine) (path : Path) (env : Environment) (p : Progress) :
    (readSources m path env).run p =
      (tellSource path (p.files.doesExist m.workingDir path) >>= fun _ =>
        Action.orFail .load (settingsAt m p.files path env)).run p := rfl

theorem run_load_ordered (h : IsReadAlike m o p.files (pathFrom env) env) :
    (load (m.ordered o) env).run p = (load m env).run p := by
  have hread : (readSources (m.ordered o) (pathFrom env) env).run p =
      (readSources m (pathFrom env) env).run p := by
    rw [run_readSources, run_readSources, show _ = _ from h]
    rfl
  unfold load
  rw [Action.run_bind, Action.run_bind, hread]

end Config

/-- Once the settings are read, a run asks for no hash table. -/
theorem Bootstrap.run_ordered (h : Config.IsReadAlike m o p.files (Config.pathFrom env) env)
    (args : List Bytes) : (run (m.ordered o) args env).run p = (run m args env).run p := by
  unfold run
  rw [Action.run_bind, Action.run_bind, Action.run_within, Action.run_within,
    Config.run_load_ordered h]
  rfl

end Prelaunch
