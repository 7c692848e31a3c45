import Prelaunch.Cli
import Prelaunch.Proofs.Effects
import Prelaunch.Proofs.EnvFile
import Prelaunch.Proofs.Environment
import Prelaunch.Proofs.SearchPath

/-!
How the program as a whole ends. Either every stage succeeds, and another program runs in its place
with the arguments and the environment of this one but for the search path for modules, or one stage
fails, and that is reported. Only a file of variables that asks for the impossible stops it before
its first stage.
-/

namespace Prelaunch

variable {m : Machine} {args : List Bytes} {env : Environment} {p : Progress}

namespace Launch

theorem make_eq_ok {s : BootstrapSettings} {l : Launch} (h : make s args env = .ok l) :
    l = ⟨s.entrypoint, args, s.modulePathVar,
      searchPath s.configDir.bytes (env.getRaw? s.modulePathVar)⟩ := by
  rw [make_eq] at h
  split at h
  · cases h
  · exact (Except.ok.inj h).symm

theorem exec_eq_ok {l : Launch} {t : FileTree} {cwd : Location} {vars : Variables}
    {inv : Invocation} (h : l.exec t cwd vars = .ok inv) :
    inv = ⟨l.program, l.args, l.environment vars⟩ := by
  unfold exec at h
  dsimp only at h
  split at h
  · cases h
  · split at h
    · cases h
    · exact (Except.ok.inj h).symm

end Launch

namespace Bootstrap

theorem conclusion_eq_ok {b : Bootstrap} {written : List (ArtifactRequest × Bytes)}
    {failure : Option FetchError} {prepared : Prepared}
    (h : b.conclusion args env written failure = .ok prepared) :
    Launch.make b.config.bootstrap args env = .ok prepared.launch := by
  unfold conclusion at h
  cases failure with
  | some cause => cases h
  | none =>
      cases hlaunch : Launch.make b.config.bootstrap args env with
      | error cause =>
          rw [hlaunch] at h
          cases h
      | ok launch =>
          rw [hlaunch] at h
          rw [← Except.ok.inj h]

/-- A run that has come to a result has the launch that its settings describe. -/
theorem launch_of_run {prepared : Prepared} (h : ((run m args env).run p).1 = .ok prepared) :
    ∃ c, ((Config.load m env).run p).1 = .ok c ∧
      Launch.make c.bootstrap args env = .ok prepared.launch := by
  obtain ⟨q, -, -, hrun⟩ := run_run m args env p
  rw [hrun] at h
  cases hload : ((Config.load m env).run p).1 with
  | error e =>
      rw [hload] at h
      cases h
  | ok c =>
      simp only [hload] at h
      cases hbuilt : built c env with
      | error e =>
          rw [hbuilt] at h
          cases h
      | ok b =>
          simp only [hbuilt] at h
          obtain rfl := (built_eq_ok hbuilt).config
          obtain ⟨result, after, hstages, hresult⟩ := b.stages m args env q
          rw [hstages] at h
          refine ⟨b.config, rfl, ?_⟩
          -- only the last of the stages has a launch
          cases hresult with
          | unusable => cases h
          | refused => cases h
          | provided => exact conclusion_eq_ok h

end Bootstrap

namespace Cli

/-- The hand-over that settings describe: the entry point with the arguments as they are, and with
the variables as they are but for the search path for modules, which begins with the working
directory. -/
structure IsHandOver (c : Config) (args : List Bytes) (vars : Variables) (inv : Invocation) :
    Prop where
  program : inv.program = c.bootstrap.entrypoint
  args : inv.args = args
  modulePath : inv.environment.find? (Utf8.encode c.bootstrap.modulePathVar) =
    some (Launch.searchPath c.bootstrap.configDir.bytes
      (vars.find? (Utf8.encode c.bootstrap.modulePathVar)))
  others : ∀ name, name ≠ Utf8.encode c.bootstrap.modulePathVar →
    inv.environment.find? name = vars.find? name

theorem isHandOver_of_exec {c : Config} {vars : Variables} {l : Launch} {t : FileTree}
    {cwd : Location} {inv : Invocation}
    (hmake : Launch.make c.bootstrap args (.ofPairs vars.entries) = .ok l)
    (hexec : l.exec t cwd vars = .ok inv) : IsHandOver c args vars inv := by
  have hraw (name : String) :
      (Environment.ofPairs vars.entries).getRaw? name = vars.find? (Utf8.encode name) :=
    Environment.getRaw?_ofPairs vars.nodup_keys name
  obtain rfl := Launch.exec_eq_ok hexec
  obtain rfl := Launch.make_eq_ok hmake
  refine ⟨rfl, rfl, ?_, fun name hname => ?_⟩
  · show (vars.insert _ _).find? _ = _
    rw [OrderedMap.find?_insert, beq_self_eq_true, hraw]
    rfl
  · show (vars.insert _ _).find? _ = _
    rw [OrderedMap.find?_insert, beq_false_of_ne hname]
    rfl

theorem run_of_load? {inherited vars : Variables} {start : Progress}
    (hvars : EnvFile.load? start.files m.workingDir inherited = some vars) (args : List Bytes) :
    (run m args inherited start).1 =
      match (Bootstrap.run m args (.ofPairs vars.entries)).run start with
      | (.error e, _) => .failed e
      | (.ok prepared, after) =>
        match prepared.launch.exec after.files m.workingDir vars with
        | .error e => .failed (.launch e)
        | .ok inv => .handedOver inv := by
  unfold run attempt
  rw [hvars]
  dsimp only
  rw [Action.run_bind]
  rcases (Bootstrap.run m args (.ofPairs vars.entries)).run start with ⟨e | prepared, after⟩
  · rfl
  · dsimp only
    -- what is told before the hand-over leaves the files as they are
    unfold handOver
    rw [Action.run_bind_of_ok (Action.run_tell _ _ _ after),
      Action.run_bind_of_ok (Action.run_files _)]
    dsimp only
    cases prepared.launch.exec after.files m.workingDir vars <;> rfl

theorem run_of_load?_none {inherited : Variables} {start : Progress}
    (hvars : EnvFile.load? start.files m.workingDir inherited = none) (args : List Bytes) :
    run m args inherited start = (.aborted, start) := by
  unfold run
  rw [hvars]

theorem Outcome.exists_of_exitCode_eq_zero {o : Outcome} {ends : Invocation → Nat}
    (h : o.exitCode ends = 0) : ∃ inv, o = .handedOver inv := by
  cases o with
  | handedOver inv => exact ⟨inv, rfl⟩
  | failed e => cases h
  | aborted => cases h

/-- The program hands over if every stage succeeds, and then as its settings describe: the file of
variables has filled in what had no text, and the program that takes over decides the exit code. If a
stage or the hand-over itself fails, no program takes over, and the error is reported with exit code
1. If the file of variables gives a value with a NUL to a variable without a text, nothing is done at
all, and the exit code is another. So whatever other programs end with, an exit code 0 comes from a
hand-over only. -/
theorem hands_over_exactly_on_success (m : Machine) (args : List Bytes) (inherited : Variables)
    (start : Progress) :
    let outcome := (run m args inherited start).1
    ((∃ vars, EnvFile.load? start.files m.workingDir inherited = some vars ∧
        EnvFile.FillsIn inherited vars ∧
        let env := Environment.ofPairs vars.entries
        let stages := (Bootstrap.run m args env).run start
        ((∃ c prepared inv, ((Config.load m env).run start).1 = .ok c ∧ stages.1 = .ok prepared ∧
            prepared.launch.exec stages.2.files m.workingDir vars = .ok inv ∧
            outcome = .handedOver inv ∧ IsHandOver c args vars inv ∧ outcome.report? = none ∧
            ∀ ends, outcome.exitCode ends = ends inv) ∨
          ∃ e, (stages.1 = .error e ∨ ∃ prepared cause, stages.1 = .ok prepared ∧
              prepared.launch.exec stages.2.files m.workingDir vars = .error cause ∧
              e = .launch cause) ∧
            outcome = .failed e ∧ outcome.invocation? = none ∧
            outcome.report? = some ("bootfetch: " ++ e.message) ∧
            ∀ ends, outcome.exitCode ends = 1)) ∨
      (∃ content, EnvFile.findUpward start.files m.workingDir.reverse = some content ∧
          EnvFile.GivesNul inherited (EnvFile.lines content)) ∧
        run m args inherited start = (.aborted, start) ∧ outcome.invocation? = none ∧
        outcome.report? = none ∧ ∀ ends, outcome.exitCode ends = 101) ∧
    ∀ ends, outcome.exitCode ends = 0 → ∃ inv, outcome = .handedOver inv := by
  dsimp only
  refine ⟨?_, fun ends => Outcome.exists_of_exitCode_eq_zero⟩
  cases hvars : EnvFile.load? start.files m.workingDir inherited with
  | none =>
      have hrun := run_of_load?_none hvars args
      rw [hrun]
      exact .inr ⟨EnvFile.givesNul_of_load? hvars, rfl, rfl, rfl, fun _ => rfl⟩
  | some vars =>
      refine .inl ⟨vars, rfl, EnvFile.fillsIn_load? hvars, ?_⟩
      rw [run_of_load? hvars]
      rcases hstages : (Bootstrap.run m args (.ofPairs vars.entries)).run start with
        ⟨e | prepared, after⟩
      · exact .inr ⟨e, .inl rfl, rfl, rfl, rfl, fun _ => rfl⟩
      · dsimp only
        cases hexec : prepared.launch.exec after.files m.workingDir vars with
        | error cause =>
            exact .inr ⟨.launch cause, .inr ⟨prepared, cause, rfl, hexec, rfl⟩, rfl, rfl, rfl,
              fun _ => rfl⟩
        | ok inv =>
            obtain ⟨c, hload, hmake⟩ := Bootstrap.launch_of_run (congrArg Prod.fst hstages)
            exact .inl ⟨c, prepared, inv, hload, rfl, hexec, rfl, isHandOver_of_exec hmake hexec,
              rfl, fun _ => rfl⟩

/-! A variable whose value is no text counts as missing for the file of variables, and a value with a
NUL in that file is one that cannot be set. -/

/-- A program to hand over to, and a file of variables. -/
def sampleFiles (content : String) : FileTree :=
  (FileTree.empty.put [Utf8.encode "p"] (.file [] true)).put [EnvFile.fileName]
    (.file (Utf8.encode content) false)

def sampleVariables : Variables :=
  ((OrderedMap.empty.insert (Utf8.encode "BOOTFETCH__BOOTSTRAP__ENTRYPOINT") (Utf8.encode "/p")).insert
    (Utf8.encode "CONFIG_DIR") (Utf8.encode "/d")).insert (Utf8.encode "X") [0xFF]

theorem env_file_replaces_or_aborts :
    (sampleVariables.find? (Utf8.encode "X") = some [0xFF] ∧
      ((run Bootstrap.sampleMachine [] sampleVariables
        { files := sampleFiles "X=1\n" }).1.invocation?.bind
          (·.environment.find? (Utf8.encode "X"))) = some (Utf8.encode "1")) ∧
    let outcome := (run Bootstrap.sampleMachine [] sampleVariables
      { files := sampleFiles "Y=a\x00b\n" }).1
    outcome.invocation? = none ∧ outcome.report? = none ∧ outcome.exitCode (fun _ => 0) = 101 := by
  decide +kernel

end Cli

end Prelaunch
