import Prelaunch.Bootstrap
import Prelaunch.Proofs.Credential
import Prelaunch.Proofs.Environment

/-!
What settings and plans take from the variables. Overrides are looked for among the names that spell
a setting, downloads among those with two beginnings, and no variable of the deployment is an
override.
-/

namespace Prelaunch

open Settings

variable {env env' : Environment}

/-! Names that spell no setting. -/

namespace Settings.Override

/-- A name that begins with another letter than the overrides is none of them. -/
theorem path?_eq_none_of_head {name : String} {c d : Char} (hhead : name.toList.head? = some c)
    (hsigma : c ≠ 'Σ') (hlower : Text.lowerChar c = [d]) (hne : d ≠ 'b') : path? name = none := by
  obtain ⟨rest, hname⟩ : ∃ rest, name.toList = c :: rest := List.head?_eq_some_iff.1 hhead
  have hlowered : (Text.lowercase name).toList = d :: Text.lowerAfter [c] rest := by
    rw [Text.lowercase, String.toList_ofList, hname, Text.lowerAfter, if_neg (by simpa using hsigma),
      hlower]
    rfl
  have hnone : Text.dropStart? start (Text.lowercase name) = none := by
    rw [Option.eq_none_iff_forall_ne_some]
    intro more hmore
    have hstart : (Text.lowercase name).toList = start.toList ++ more.toList := by
      rw [Text.dropStart?_eq_some.1 hmore, String.toList_append]
    rw [hlowered] at hstart
    exact hne (List.cons.inj hstart).1
  rw [path?, hnone]
  rfl

/-- The variables of the deployment: those with a name of their own, and those that ask for
downloads. -/
def IsDeploymentName (name : String) : Prop :=
  name ∈ ["BOOTFETCH_CONFIG", "CONFIG_DIR", "LITELLM_CONFIG_URL", "AUTH_HEADER",
    "BACKBLAZE_KEY_ID", "B2_KEY_ID", "BACKBLAZE_APPLICATION_KEY", "B2_APPLICATION_KEY",
    "BACKBLAZE_AUTH_URL"] ∨
  Text.startsWith "CONFIG_URL_" name = true ∨ Text.startsWith "HANDLER_URL_" name = true

theorem path?_eq_none_of_isDeploymentName {name : String} (h : IsDeploymentName name) :
    path? name = none := by
  obtain hfixed | hconfig | hhandler := h
  · revert name
    decide +kernel
  · obtain ⟨rest, rfl⟩ := Text.startsWith_iff.1 hconfig
    exact path?_eq_none_of_head (c := 'C') (d := 'c') (by simp) (by decide) (by decide +kernel) (by decide)
  · obtain ⟨rest, rfl⟩ := Text.startsWith_iff.1 hhandler
    exact path?_eq_none_of_head (c := 'H') (d := 'h') (by simp) (by decide) (by decide +kernel) (by decide)

/-- Only the names that spell settings are looked at. -/
theorem source_congr (h : ∀ name, (path? name).isSome = true → env.get? name = env'.get? name)
    (o : HashOrder) : source o env = source o env' := by
  have hnaming : naming env = naming env' :=
    Environment.filter_toList_congr fun name text hname => by rw [h name hname]
  unfold source
  rw [hnaming]

end Settings.Override

namespace Config

theorem settingsAt_congr
    (h : ∀ name, (Override.path? name).isSome = true → env.get? name = env'.get? name)
    (m : Machine) (files : FileTree) (path : Path) :
    settingsAt m files path env = settingsAt m files path env' := by
  unfold settingsAt ofSources
  rw [Override.source_congr h]

theorem readSources_congr
    (h : ∀ name, (Override.path? name).isSome = true → env.get? name = env'.get? name)
    (m : Machine) (path : Path) : readSources m path env = readSources m path env' := by
  unfold readSources
  simp only [settingsAt_congr h]

theorem pathFrom_congr (h : env.nonEmpty? "BOOTFETCH_CONFIG" = env'.nonEmpty? "BOOTFETCH_CONFIG") :
    pathFrom env = pathFrom env' := by
  unfold pathFrom
  rw [h]

theorem deployed_congr
    (h : ∀ name, Override.IsDeploymentName name → env.nonEmpty? name = env'.nonEmpty? name)
    (c : Config) : c.deployed env = c.deployed env' := by
  have hhalf (half : CredentialHalf) :
      env.firstNonEmpty? half.variables = env'.firstNonEmpty? half.variables := by
    refine Environment.firstNonEmpty?_congr fun name hname => h name (.inl ?_)
    revert name
    cases half <;> decide
  unfold deployed
  rw [hhalf, hhalf, h "CONFIG_DIR" (.inl (by decide)), h "BACKBLAZE_AUTH_URL" (.inl (by decide)),
    h "AUTH_HEADER" (.inl (by decide)), h Plan.primaryVariable (.inl (by decide))]

/-- Settings are made of the overrides, and of what the variables of the deployment hold if they are
not empty. -/
theorem load_congr
    (hsource : ∀ name, (Override.path? name).isSome = true → env.get? name = env'.get? name)
    (h : ∀ name, Override.IsDeploymentName name → env.nonEmpty? name = env'.nonEmpty? name)
    (m : Machine) : load m env = load m env' := by
  unfold load
  rw [pathFrom_congr (h _ (.inl (by decide))), readSources_congr hsource]
  simp only [deployed_congr h]

end Config

namespace Plan

/-- The candidates with one beginning whose URLs pass a test are the variables of which this is
so. -/
theorem filter_candidatesFor_congr (start : String) (kind : ArtifactKind) (test : String → Bool)
    (h : ∀ name url, Text.startsWith start name = true → test url = true →
      (env.get? name = some url ↔ env'.get? name = some url)) :
    (candidatesFor env start kind).filter (test ·.url) =
      (candidatesFor env' start kind).filter (test ·.url) := by
  have hfilter : (env.startingWith start).filter (test ·.2) =
      (env'.startingWith start).filter (test ·.2) := by
    rw [Environment.startingWith_eq_filter, Environment.startingWith_eq_filter, List.filter_filter,
      List.filter_filter]
    refine Environment.filter_toList_congr fun name url hboth => ?_
    obtain ⟨htest, hstart⟩ := Bool.and_eq_true_iff.1 hboth
    exact h name url hstart htest
  unfold candidatesFor
  rw [List.filter_map, List.filter_map]
  exact congrArg _ hfilter

theorem candidatesFor_congr (start : String) (kind : ArtifactKind)
    (h : ∀ name, Text.startsWith start name = true → env.get? name = env'.get? name) :
    candidatesFor env start kind = candidatesFor env' start kind := by
  have hall : (candidatesFor env start kind).filter (fun _ => true) =
      (candidatesFor env' start kind).filter fun _ => true :=
    filter_candidatesFor_congr start kind (fun _ => true)
      fun name url hname _ => by rw [h name hname]
  simpa using hall

end Plan

/-- A plan is made of the candidates with a URL. -/
theorem plan_congr (h : (Plan.candidates env).filter (!·.isVacant) =
      (Plan.candidates env').filter (!·.isVacant)) (dir : Path) (primary : Option String) :
    plan env dir primary = plan env' dir primary := by
  unfold plan
  rw [h]

/-- A launch is made of the bytes of one variable. -/
theorem Launch.make_congr {s : BootstrapSettings}
    (hraw : env.getRaw? s.modulePathVar = env'.getRaw? s.modulePathVar) (args : List Bytes) :
    make s args env = make s args env' := by
  unfold make
  rw [hraw]

/-! Snapshots that say the same of what is asked for. -/

/-- Settings and plans are made of such variables: those of the deployment, and those that spell a
setting. -/
def Environment.IsConsulted (name : String) : Prop :=
  Override.IsDeploymentName name ∨ (Override.path? name).isSome = true

theorem Config.load_congr_get?
    (h : ∀ name, Environment.IsConsulted name → env.get? name = env'.get? name) (m : Machine) :
    load m env = load m env' :=
  load_congr (fun name hname => h name (.inr hname))
    (fun name hname => Environment.nonEmpty?_congr (h name (.inl hname))) m

theorem Plan.candidates_congr
    (h : ∀ name, Environment.IsConsulted name → env.get? name = env'.get? name) :
    candidates env = candidates env' := by
  unfold candidates
  rw [candidatesFor_congr configStart .config fun name hname => h name (.inl (.inr (.inl hname))),
    candidatesFor_congr handlerStart .handler fun name hname => h name (.inl (.inr (.inr hname)))]

namespace Bootstrap

theorem make_congr (h : Plan.candidates env = Plan.candidates env') (c : Config) :
    make c env = make c env' := by
  have hplan := plan_congr (congrArg (List.filter (!·.isVacant)) h)
  unfold make tellVacant Plan.vacant
  simp only [h, hplan]

theorem prepare_congr (hraw : ∀ name, env.getRaw? name = env'.getRaw? name) (b : Bootstrap)
    (m : Machine) (args : List Bytes) : b.prepare m args env = b.prepare m args env' := by
  unfold prepare
  rw [Launch.make_congr (hraw _)]

/-- A run asks for the texts of some variables, and at its end for the bytes of one that its
settings name. -/
theorem run_congr (h : ∀ name, Environment.IsConsulted name → env.get? name = env'.get? name)
    (hraw : ∀ name, env.getRaw? name = env'.getRaw? name) (m : Machine) (args : List Bytes) :
    run m args env = run m args env' := by
  unfold run
  simp only [Config.load_congr_get? h m, make_congr (Plan.candidates_congr h), prepare_congr hraw]

end Bootstrap

end Prelaunch
