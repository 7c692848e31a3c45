import Prelaunch.Proofs.Planning
import Prelaunch.Proofs.Repetition
import Prelaunch.Proofs.SearchPath

/-!
When it shows that no program can be handed over to. The search path cannot be made for a working
directory with a separator in its name. Making a bootstrap does not ask for that, so the preparation
fails with it, after everything else has been done.
-/

namespace Prelaunch

namespace Config

/-- The settings with another working directory. -/
def withDirectory (c : Config) (dir : Path) : Config :=
  { c with bootstrap := { c.bootstrap with configDir := dir } }

/-- Of the working directory only its being there is asked. -/
theorem validate_withDirectory {c : Config} {dir : Path} (h : c.validate = .ok ())
    (hdir : dir.isEmpty = false) : (c.withDirectory dir).validate = .ok () := by
  obtain ⟨haccount, hheader, hbootstrap, hhttp⟩ := validate_eq_ok.1 h
  refine validate_eq_ok.2 ⟨haccount, hheader, ?_, hhttp⟩
  unfold checkBootstrap at hbootstrap
  rw [configDir_of_validate h] at hbootstrap
  unfold checkBootstrap
  rw [show (c.withDirectory dir).bootstrap.configDir.isEmpty = false from hdir]
  exact hbootstrap

end Config

namespace Bootstrap

variable {c : Config} {env₀ : Environment} {start : Progress} {b : Bootstrap}

/-- Settings that are accepted are accepted with any other working directory. -/
theorem IsBuilt.exists_withDirectory (h : IsBuilt c env₀ b) {dir : Path}
    (hdir : dir.isEmpty = false) (s : Progress) :
    ∃ b', ((make (c.withDirectory dir) env₀).run s).1 = .ok b' := by
  obtain ⟨hconfigs, hhandlers, -⟩ := Plan.plan_eq_ok.1 h.plan
  have hplan : Prelaunch.plan env₀ dir c.primaryUrl = .ok _ :=
    Plan.plan_eq_ok.2 ⟨hconfigs, hhandlers, rfl⟩
  have hclient : Http.Client.make (c.withDirectory dir).http = .ok b.client := h.client
  have hheader : (c.withDirectory dir).explicitHeader = .ok b.explicitHeader := h.header
  obtain ⟨events, hrun⟩ := run_make (c.withDirectory dir) env₀ s
  rw [hrun]
  unfold built
  rw [hclient, Config.validate_withDirectory h.valid hdir, hheader]
  dsimp only
  rw [show Prelaunch.plan env₀ (c.withDirectory dir).bootstrap.configDir
    (c.withDirectory dir).primaryUrl = _ from hplan]
  exact ⟨_, rfl⟩

/-- Everything before the invocation has been done: the directory is there, the provider has granted
what was asked of it, and the whole plan has been requested and written. -/
def HasDone (b : Bootstrap) (m : Machine) (p after : Progress) : Prop :=
  ∃ ensured provider written,
    p.files.ensureDirectory m.workingDir b.config.bootstrap.configDir = (ensured, .ok ()) ∧
    b.provided m = .ok provider ∧
    Downloads m b.client (b.broker provider) ensured b.artifacts written none after.files ∧
    after.sent = p.sent ++ b.asked m.network ++ b.artifacts.flatMap
      fun r => (r.exchange m b.client (b.broker provider)).sent

theorem prepare_eq_launch_error {m : Machine} {args : List Bytes} {env : Environment}
    {p : Progress} {e : LaunchError} :
    ((b.prepare m args env).run p).1 = .error (.launch e) ↔
      b.HasDone m p ((b.prepare m args env).run p).2 ∧
        Launch.make b.config.bootstrap args env = .error e := by
  obtain ⟨result, after, hrun, hstages⟩ := b.stages m args env p
  rw [hrun]
  cases hstages with
  | unusable hdir =>
      refine ⟨nofun, ?_⟩
      rintro ⟨⟨ensured, provider, written, hdir', -⟩, -⟩
      rw [hdir] at hdir'
      cases hdir'
  | refused hdir hrefused =>
      refine ⟨nofun, ?_⟩
      rintro ⟨⟨ensured, provider, written, -, hgrant, -⟩, -⟩
      rw [hrefused] at hgrant
      cases hgrant
  | @provided t provider written failure after hdir hgrant hdownloads hsent =>
      constructor
      · intro h
        cases failure with
        | some cause => cases h
        | none =>
            obtain ⟨rest, hsplit, ⟨-, rfl⟩ | ⟨_, _, _, hfails, -⟩⟩ := hdownloads.split
            · have hall : b.artifacts.take (written.length + 1) = b.artifacts :=
                List.take_of_length_le (by simp [hsplit])
              rw [hall] at hsent
              refine ⟨⟨t, provider, written, hdir, hgrant, hdownloads, hsent⟩, ?_⟩
              cases hlaunch : Launch.make b.config.bootstrap args env with
              | ok launch => simp [conclusion, hlaunch] at h
              | error cause => simpa [conclusion, hlaunch] using h
            · cases hfails
      · rintro ⟨⟨ensured, provider', written', hdir', hgrant', hdownloads', -⟩, hlaunch⟩
        obtain ⟨rfl, -⟩ := Prod.mk.inj (hdir.symm.trans hdir')
        obtain rfl := Except.ok.inj (hgrant.symm.trans hgrant')
        obtain ⟨rfl, rfl, -⟩ := hdownloads.unique hdownloads'
        simp [conclusion, hlaunch]

/-- For settings that have been accepted, the preparation fails for want of a search path exactly if
the name of the working directory has a separator in it and all else has been done by then. Neither
the environment nor the arguments have a part in it. And nothing of it is asked before: the same
settings are accepted with any working directory. -/
theorem search_path_fails_last (hmake : ((make c env₀).run start).1 = .ok b) :
    (∀ m args env p e, ((b.prepare m args env).run p).1 = .error (.launch e) ↔
      b.HasDone m p ((b.prepare m args env).run p).2 ∧ 0x3A ∈ c.bootstrap.configDir.bytes ∧
        e = .modulePath c.bootstrap.modulePathVar c.bootstrap.configDir) ∧
    ∀ dir : Path, dir.isEmpty = false →
      ∃ b', ((make (c.withDirectory dir) env₀).run start).1 = .ok b' := by
  have hbuilt := isBuilt_of_make hmake
  refine ⟨fun m args env p e => ?_, fun dir hdir => hbuilt.exists_withDirectory hdir start⟩
  rw [prepare_eq_launch_error, Launch.make_eq, hbuilt.config]
  refine and_congr_right fun _ => ?_
  by_cases hseparator : 0x3A ∈ c.bootstrap.configDir.bytes
  · simp [Launch.listSeparator, hseparator, eq_comm]
  · simp [Launch.listSeparator, hseparator]

/-! A working directory with a separator in its name, and one file to be fetched into it. -/

def separatedConfig : Config := sampleConfig.withDirectory (.ofText "/a:b")

def separatedEnvironment : Environment :=
  .ofPairs [(Utf8.encode "CONFIG_URL_A", Utf8.encode "http://h/a")]

def separated : Bootstrap :=
  ⟨separatedConfig, none, [⟨"http://h/a", .ofText "/a:b/a.yaml", .config, "CONFIG_URL_A"⟩],
    ⟨Utf8.encode "bootfetch/0.1.0", 10, ⟨10, none⟩⟩⟩

theorem search_path_fails_last_separated :
    ((separated.prepare sampleMachine [] .empty).run { files := .empty }).1 =
      .error (.launch (.modulePath "PYTHONPATH" (.ofText "/a:b"))) ∧
    separated.HasDone sampleMachine { files := .empty }
      ((separated.prepare sampleMachine [] .empty).run { files := .empty }).2 ∧
    ∃ b, ((make (separatedConfig.withDirectory (.ofText "/d")) separatedEnvironment).run
      { files := .empty }).1 = .ok b := by
  have hmake : ((make separatedConfig separatedEnvironment).run { files := .empty }).1 =
      .ok separated := by
    decide +kernel
  have hfails : ((separated.prepare sampleMachine [] .empty).run { files := .empty }).1 =
      .error (.launch (.modulePath "PYTHONPATH" (.ofText "/a:b"))) := by
    decide +kernel
  obtain ⟨hlast, haccepted⟩ := search_path_fails_last hmake
  exact ⟨hfails, ((hlast ..).1 hfails).1, haccepted (.ofText "/d") (by decide +kernel)⟩

/-- Such settings are accepted, and the failure comes when requests have been sent, a directory has
been made and a file has been written. -/
theorem search_path_fails_after_network :
    ∃ b, ((make separatedConfig separatedEnvironment).run { files := .empty }).1 = .ok b ∧
      let ran := (b.prepare sampleMachine [] separatedEnvironment).run { files := .empty }
      ran.1 = .error (.launch (.modulePath "PYTHONPATH" (.ofText "/a:b"))) ∧
      ran.2.sent.length = 2 ∧
      ran.2.files.entry? [Utf8.encode "a:b"] = some .directory ∧
      ran.2.files.read? [] (.ofText "/a:b/a.yaml") = some (Utf8.encode "a: 1") := by
  have hmake : ((make separatedConfig separatedEnvironment).run { files := .empty }).1 =
      .ok separated := by
    decide +kernel
  refine ⟨separated, hmake, ?_⟩
  decide +kernel

end Bootstrap

end Prelaunch
