import Prelaunch.Proofs.Agreement.Preparation
import Prelaunch.Proofs.Construction
import Prelaunch.Proofs.SearchPath
import Prelaunch.Proofs.SecretSources
import Prelaunch.Proofs.Settled
import Prelaunch.Proofs.VariableUse

/-!
An empty variable sets nothing. Where the variables of two snapshots differ only in that some, which
are no overrides, are empty in one and missing in the other, both give the same settings, the same
plan and the same invocation, so that runs with them differ only in what they tell of variables that
they pass over.
-/

namespace Prelaunch

open Settings

/-- Each variable says the same in both snapshots, or it is no override, empty in the first and
missing in the second. -/
def Environment.LosesEmpty (env env' : Environment) : Prop :=
  ∀ name, env.get? name = env'.get? name ∧ env.getRaw? name = env'.getRaw? name ∨
    Override.path? name = none ∧ env.get? name = some "" ∧ env'.get? name = none ∧
      env.getRaw? name = some [] ∧ env'.getRaw? name = none

namespace Environment.LosesEmpty

variable {env env' : Environment}

theorem nonEmpty?_eq (h : LosesEmpty env env') (name : String) :
    env.nonEmpty? name = env'.nonEmpty? name := by
  unfold nonEmpty?
  obtain ⟨hget, -⟩ | ⟨-, hempty, hmissing, -⟩ := h name
  · rw [hget]
  · rw [hempty, hmissing]
    rfl

theorem get?_eq_of_path? (h : LosesEmpty env env') (name : String)
    (hname : (Override.path? name).isSome = true) : env.get? name = env'.get? name := by
  obtain ⟨hget, -⟩ | ⟨hnone, -⟩ := h name
  · exact hget
  · rw [hnone] at hname
    cases hname

theorem load_eq (h : LosesEmpty env env') (m : Machine) : Config.load m env = Config.load m env' :=
  Config.load_congr h.get?_eq_of_path? (fun name _ => h.nonEmpty?_eq name) m

/-- A variable that may ask for a download does so with a URL that is not empty. -/
theorem plan_eq (h : LosesEmpty env env') (dir : Path) (primary : Option String) :
    plan env dir primary = plan env' dir primary := by
  have hname (name url : String) (hurl : (!url.isEmpty) = true) :
      env.get? name = some url ↔ env'.get? name = some url := by
    obtain ⟨hget, -⟩ | ⟨-, hempty, hmissing, -⟩ := h name
    · rw [hget]
    · rw [hempty, hmissing]
      refine ⟨fun heq => ?_, fun heq => by cases heq⟩
      rw [← Option.some.inj heq] at hurl
      cases hurl
  refine plan_congr ?_ dir primary
  unfold Plan.candidates
  rw [List.filter_append, List.filter_append]
  congr 1 <;>
    exact Plan.filter_candidatesFor_congr _ _ (!·.isEmpty) fun name url _ hurl =>
      hname name url hurl

theorem searchPath_eq (h : LosesEmpty env env') (dir : Bytes) (name : String) :
    Launch.searchPath dir (env.getRaw? name) = Launch.searchPath dir (env'.getRaw? name) := by
  obtain ⟨-, hraw⟩ | ⟨-, -, -, hempty, hmissing⟩ := h name
  · rw [hraw]
  · rw [hempty, hmissing]
    rfl

theorem launch_eq (h : LosesEmpty env env') (s : BootstrapSettings) (args : List Bytes) :
    Launch.make s args env = Launch.make s args env' := by
  simp only [Launch.make_eq, h.searchPath_eq]

theorem prepare_eq (h : LosesEmpty env env') (b : Bootstrap) (m : Machine) (args : List Bytes) :
    b.prepare m args env = b.prepare m args env' := by
  unfold Bootstrap.prepare
  rw [h.launch_eq]

end Environment.LosesEmpty

/-! Runs. -/

/-- What is told of anything but a variable that is passed over. -/
def Event.isNoVacancy (e : Event) : Bool := e.message != "Skipping empty artifact URL"

namespace Bootstrap

open Action

variable {env env' : Environment}

theorem filter_events_tellVacant (env : Environment) (p : Progress) :
    ∃ events, (tellVacant env).run p = (.ok (), { p with events }) ∧
      events.filter Event.isNoVacancy = p.events.filter Event.isNoVacancy := by
  unfold tellVacant
  generalize Plan.vacant env = names
  induction names generalizing p with
  | nil => exact ⟨p.events, rfl, rfl⟩
  | cons name names ih =>
      have htell := run_tell (ε := BootstrapError) .debug "Skipping empty artifact URL"
        [("variable", name)] p
      obtain ⟨events, hrun, hfilter⟩ := ih _
      refine ⟨events, (run_bind_of_ok htell _).trans hrun, hfilter.trans ?_⟩
      rw [List.filter_append]
      exact List.append_nil _

/-- What two runs tell of the variables that they pass over is not seen. -/
theorem agree_tellVacant (env env' : Environment) :
    Agree Eq Event.isNoVacancy Eq (tellVacant env) (tellVacant env') := by
  intro p q hpq
  obtain ⟨events, hrun, hfilter⟩ := filter_events_tellVacant env p
  obtain ⟨events', hrun', hfilter'⟩ := filter_events_tellVacant env' q
  rw [hrun, hrun']
  exact ⟨.ok rfl, hpq.files, hpq.sent, hfilter.trans (hpq.events.trans hfilter'.symm)⟩

theorem agree_run_of_losesEmpty (h : env.LosesEmpty env') (m : Machine) (args : List Bytes) :
    Agree Eq Event.isNoVacancy Eq (run m args env) (run m args env') := by
  have hload : Agree Eq Event.isNoVacancy Eq (Config.load m env) (Config.load m env') := by
    rw [h.load_eq]
    refine .bind (Config.agree_readSources (fun _ => rfl)) ?_
    rintro c _ rfl
    exact Config.agree_checked rfl rfl
  refine .bind (.within BootstrapError.configuration hload) ?_
  rintro c _ rfl
  refine .bind (agree_make (.refl m.network.isVeil_eq.refl c) (agree_tellVacant env env') h.plan_eq)
    fun b b' ⟨_, hb⟩ => ?_
  refine agree_prepare m.network.isVeil_eq args hb ?_
  rw [hb.config.bootstrap, h.launch_eq]

end Bootstrap

/-! Pairs that are left out. -/

/-- Pairs that may go: their value is empty, and their name, if it is a text, is one of the
deployment or no override. -/
def Environment.IsIdle (pair : Bytes × Bytes) : Prop :=
  pair.2 = [] ∧ ∀ name, pair.1 = Utf8.encode name →
    Override.IsDeploymentName name ∨ Override.path? name = none

theorem Environment.isIdle_of_name {name : String}
    (h : Override.IsDeploymentName name ∨ Override.path? name = none) :
    IsIdle (Utf8.encode name, []) := by
  refine ⟨rfl, fun other hother => ?_⟩
  rwa [← Utf8.encode_inj.1 hother]

theorem Environment.losesEmpty_filter {pairs : List (Bytes × Bytes)}
    (hnames : (pairs.map (·.1)).Nodup) {keep : Bytes × Bytes → Bool}
    (hidle : ∀ pair ∈ pairs, keep pair = false → IsIdle pair) :
    LosesEmpty (ofPairs pairs) (ofPairs (pairs.filter keep)) := by
  have hkept : ((pairs.filter keep).map (·.1)).Nodup :=
    (List.filter_sublist.map _).nodup hnames
  intro name
  rw [get?_ofPairs hnames, get?_ofPairs hkept, getRaw?_ofPairs hnames, getRaw?_ofPairs hkept,
    lookup_filter hnames]
  cases hlookup : pairs.lookup (Utf8.encode name) with
  | none => exact .inl ⟨rfl, rfl⟩
  | some value =>
      rw [Option.filter_some]
      cases hkeep : keep (Utf8.encode name, value) with
      | true => exact .inl ⟨rfl, rfl⟩
      | false =>
          -- names are distinct, so the pair that went was the only one of this name
          have hmem : (Utf8.encode name, value) ∈ pairs := by
            obtain ⟨before, after, hsplit, -⟩ := List.lookup_eq_some_iff.1 hlookup
            simp [hsplit]
          obtain ⟨hempty, hname⟩ := hidle _ hmem hkeep
          obtain rfl : value = [] := hempty
          have hnone : Override.path? name = none :=
            (hname name rfl).elim Override.path?_eq_none_of_isDeploymentName id
          exact .inr ⟨hnone, rfl, rfl, rfl, rfl⟩

/-- To leave out any variables that are empty, and are those of the deployment or no overrides,
changes neither the settings nor the plan nor what is prepared. Whole runs come to the same result
with the same files and requests, and tell the same but for the variables that are passed over. This
holds in any order of hash tables, so what may come of loading is the same, and for two orders
in which the settings are read alike. -/
theorem empty_variables_set_nothing (pairs : List (Bytes × Bytes)) (keep : Bytes × Bytes → Bool)
    (hnames : (pairs.map (·.1)).Nodup)
    (hidle : ∀ pair ∈ pairs, keep pair = false → Environment.IsIdle pair) :
    let kept := Environment.ofPairs (pairs.filter keep)
    let full := Environment.ofPairs pairs
    (∀ m o (p : Progress), Config.IsReadAlike m o p.files (Config.pathFrom full) full →
      (Config.load (m.ordered o) kept).run p = (Config.load m full).run p) ∧
    (∀ (m : Machine) p r, (∃ o, (Config.load (m.ordered o) kept).run p = r) ↔
      ∃ o, (Config.load (m.ordered o) full).run p = r) ∧
    (∀ dir primary, plan kept dir primary = plan full dir primary) ∧
    (∀ (b : Bootstrap) m o args p,
      (b.prepare (m.ordered o) args kept).run p = (b.prepare m args full).run p) ∧
    ∀ m o args (p : Progress), Config.IsReadAlike m o p.files (Config.pathFrom full) full →
      let one := (Bootstrap.run (m.ordered o) args kept).run p
      let other := (Bootstrap.run m args full).run p
      one.1 = other.1 ∧ one.2.files = other.2.files ∧ one.2.sent = other.2.sent ∧
        one.2.events.filter Event.isNoVacancy = other.2.events.filter Event.isNoVacancy := by
  intro kept full
  have hloses : full.LosesEmpty kept := Environment.losesEmpty_filter hnames hidle
  have hload (m : Machine) : Config.load m kept = Config.load m full := (hloses.load_eq m).symm
  refine ⟨fun m o p hread => ?_, fun m p r => ?_, fun dir primary => ?_, fun b m o args p => ?_,
    fun m o args p hread => ?_⟩
  · rw [hload, Config.run_load_ordered hread]
  · simp only [hload]
  · exact (hloses.plan_eq dir primary).symm
  · rw [← hloses.prepare_eq]
    rfl
  · -- the run with all pairs comes first, in its own order and then in the other
    obtain ⟨hresult, hfiles, hsent, hevents⟩ :=
      Bootstrap.agree_run_of_losesEmpty hloses (m.ordered o) args p p
        (.refl (m.ordered o).network.isVeil_eq.refl _ p)
    rw [Bootstrap.run_ordered hread] at hresult hfiles hsent hevents
    rw [Http.Request.alike_eq, List.forall₂_eq_eq_eq] at hsent
    exact ⟨hresult.eq.symm, hfiles.symm, hsent.symm, hevents.symm⟩

/-- A handler of a name that no file can have, half a key pair and a search path, all empty, beside
one download. -/
def Environment.samplePairs : List (Bytes × Bytes) :=
  [(Utf8.encode "HANDLER_URL_../x", []), (Utf8.encode "B2_KEY_ID", []),
    (Utf8.encode "PYTHONPATH", []), (Utf8.encode "CONFIG_DIR", Utf8.encode "/d"),
    (Utf8.encode "CONFIG_URL_A", Utf8.encode "http://h/a")]

theorem empty_variables_set_nothing_sample :
    let full := (Bootstrap.run Bootstrap.sampleMachine [] (.ofPairs Environment.samplePairs)).run
      { files := .empty }
    let kept := (Bootstrap.run Bootstrap.sampleMachine []
      (.ofPairs (Environment.samplePairs.filter (!·.2.isEmpty)))).run { files := .empty }
    full.1 = .ok ⟨[⟨.config, .ofText "/d/a.yaml", 4⟩],
      ⟨"litellm", [], "PYTHONPATH", Utf8.encode "/d"⟩⟩ ∧ kept.1 = full.1 := by
  have hidle : ∀ pair ∈ Environment.samplePairs, (!pair.2.isEmpty) = false →
      Environment.IsIdle pair := by
    have hrest : ∀ pair ∈ Environment.samplePairs.drop 3, (!pair.2.isEmpty) ≠ false := by
      decide +kernel
    refine List.forall_mem_cons.2 ⟨fun _ => ?_, List.forall_mem_cons.2 ⟨fun _ => ?_,
      List.forall_mem_cons.2 ⟨fun _ => ?_,
        fun pair hpair hempty => absurd hempty (hrest pair hpair)⟩⟩⟩
    · exact Environment.isIdle_of_name (.inl (.inr (.inr (by decide))))
    · exact Environment.isIdle_of_name (.inl (.inl (by decide)))
    · exact Environment.isIdle_of_name (.inr (by decide +kernel))
  have hsame := empty_variables_set_nothing Environment.samplePairs (!·.2.isEmpty)
    (by decide +kernel) hidle
  exact ⟨by decide +kernel, (hsame.2.2.2.2 _ Bootstrap.sampleMachine.order _ _ rfl).1⟩

end Prelaunch
