import Prelaunch.Proofs.Planning
import Prelaunch.Proofs.Utf8.RoundTrip

/-!
When two requests of a plan are for one file. Names of configurations and names of handlers end
differently, and what stands before the ending is the lower case of a suffix, so only requests of one
kind meet, and only where these are the same.
-/

namespace Prelaunch

namespace ArtifactRequest

/-- What the file of a configuration is named for. -/
def IsConfigFor (r : ArtifactRequest) (stem : String) : Prop :=
  r.kind = .primaryConfig ∧ stem = "config" ∨
    r.kind = .config ∧ ∃ suffix, r.source = "CONFIG_URL_" ++ suffix ∧ stem = Text.lowercase suffix

/-- What the file of a handler is named for. -/
def IsHandlerFor (r : ArtifactRequest) (stem : String) : Prop :=
  r.kind = .handler ∧ ∃ suffix, r.source = "HANDLER_URL_" ++ suffix ∧ stem = Text.lowercase suffix

/-- Two requests of one sort whose files are named for the same. -/
inductive Collides (r r' : ArtifactRequest) : Prop where
  | configs {stem} (h : r.IsConfigFor stem) (h' : r'.IsConfigFor stem)
  | handlers {stem} (h : r.IsHandlerFor stem) (h' : r'.IsHandlerFor stem)

variable {r r' : ArtifactRequest} {name name' : String}

theorem isKeptAs_iff : r.IsKeptAs name ↔
    (∃ stem, r.IsConfigFor stem ∧ name = stem ++ ".yaml") ∨
      ∃ stem, r.IsHandlerFor stem ∧ name = stem ++ "_handler.py" := by
  constructor
  · rintro (hkind | ⟨hkind, hsource⟩ | ⟨hkind, hsource⟩)
    · exact .inl ⟨"config", .inl ⟨hkind, rfl⟩, rfl⟩
    · exact .inl ⟨_, .inr ⟨hkind, _, hsource, rfl⟩, rfl⟩
    · exact .inr ⟨_, ⟨hkind, _, hsource, rfl⟩, rfl⟩
  · rintro (⟨_, ⟨hkind, rfl⟩ | ⟨hkind, suffix, hsource, rfl⟩, rfl⟩ |
      ⟨_, ⟨hkind, suffix, hsource, rfl⟩, rfl⟩)
    · exact .primary hkind
    · exact .config hkind hsource
    · exact .handler hkind hsource

theorem IsKeptAs.unique (h : r.IsKeptAs name) (h' : r.IsKeptAs name') : name = name' := by
  cases h with
  | primary hkind =>
      cases h' with
      | primary => rfl
      | config hkind' | handler hkind' => cases hkind.symm.trans hkind'
  | config hkind hsource =>
      cases h' with
      | config hkind' hsource' =>
          rw [(String.append_right_inj "CONFIG_URL_").1 (hsource.symm.trans hsource')]
      | primary hkind' | handler hkind' => cases hkind.symm.trans hkind'
  | handler hkind hsource =>
      cases h' with
      | handler hkind' hsource' =>
          rw [(String.append_right_inj "HANDLER_URL_").1 (hsource.symm.trans hsource')]
      | primary hkind' | config hkind' => cases hkind.symm.trans hkind'

/-- The last characters differ. -/
theorem config_ne_handler (stem stem' : String) : stem ++ ".yaml" ≠ stem' ++ "_handler.py" := by
  intro h
  have hlast := congrArg (·.toList.getLast?) h
  simp at hlast

theorem IsKeptAs.eq_iff (h : r.IsKeptAs name) (h' : r'.IsKeptAs name') :
    name = name' ↔ r.Collides r' := by
  constructor
  · rintro rfl
    rcases isKeptAs_iff.1 h with ⟨stem, hstem, rfl⟩ | ⟨stem, hstem, rfl⟩ <;>
      rcases isKeptAs_iff.1 h' with ⟨stem', hstem', heq⟩ | ⟨stem', hstem', heq⟩
    · obtain rfl := (String.append_left_inj ".yaml").1 heq
      exact .configs hstem hstem'
    · exact absurd heq (config_ne_handler stem stem')
    · exact absurd heq.symm (config_ne_handler stem' stem)
    · obtain rfl := (String.append_left_inj "_handler.py").1 heq
      exact .handlers hstem hstem'
  · rintro (⟨hstem, hstem'⟩ | ⟨hstem, hstem'⟩)
    · rw [h.unique (isKeptAs_iff.2 (.inl ⟨_, hstem, rfl⟩)),
        h'.unique (isKeptAs_iff.2 (.inl ⟨_, hstem', rfl⟩))]
    · rw [h.unique (isKeptAs_iff.2 (.inr ⟨_, hstem, rfl⟩)),
        h'.unique (isKeptAs_iff.2 (.inr ⟨_, hstem', rfl⟩))]

/-! Paths. -/

section Paths

variable {dir : Path}

theorem LiesIn.path_eq_iff_name_eq (h : r.LiesIn dir) (h' : r'.LiesIn dir)
    (hkept : r.IsKeptAs name) (hkept' : r'.IsKeptAs name') : r.path = r'.path ↔ name = name' := by
  obtain ⟨_, hpath, -, hkept₀, hnames, -⟩ := h
  obtain ⟨_, hpath', -, hkept₀', hnames', -⟩ := h'
  obtain rfl := hkept.unique hkept₀
  obtain rfl := hkept'.unique hkept₀'
  constructor
  · intro heq
    rw [heq, hnames', List.append_cancel_left_eq, List.singleton_inj, Utf8.encode_inj] at hnames
    exact hnames.symm
  · rintro rfl
    rw [hpath, hpath']

/-- The last step of the path is the name of the file. -/
theorem LiesIn.exists_last_step (h : r.LiesIn dir) :
    ∃ name, r.IsKeptAs name ∧ r.path.steps.getLast? = some (Utf8.encode name) := by
  obtain ⟨name, -, hfile, hkept, hnames, -⟩ := h
  refine ⟨name, hkept, Path.getLast?_steps hnames fun hcurrent => hfile.ne_current ?_⟩
  have hdot : Utf8.encode name = Utf8.encode "." := hcurrent.trans (by decide)
  exact Utf8.encode_inj.1 hdot

theorem LiesIn.path_eq_iff (h : r.LiesIn dir) (h' : r'.LiesIn dir) :
    r.path = r'.path ↔ r.Collides r' := by
  obtain ⟨name, hkept, -⟩ := h.exists_last_step
  obtain ⟨name', hkept', -⟩ := h'.exists_last_step
  rw [h.path_eq_iff_name_eq h' hkept hkept', hkept.eq_iff hkept']

theorem LiesIn.steps_eq_iff (h : r.LiesIn dir) (h' : r'.LiesIn dir) :
    r.path.steps = r'.path.steps ↔ r.Collides r' := by
  constructor
  · intro heq
    obtain ⟨name, hkept, hlast⟩ := h.exists_last_step
    obtain ⟨name', hkept', hlast'⟩ := h'.exists_last_step
    rw [heq, hlast', Option.some.injEq, Utf8.encode_inj] at hlast
    exact (hkept.eq_iff hkept').1 hlast.symm
  · intro hcollides
    rw [(h.path_eq_iff h').2 hcollides]

end Paths

theorem IsConfigFor.kind_ne_handler {stem : String} (h : r.IsConfigFor stem) :
    r.kind ≠ .handler := by
  obtain ⟨hkind, -⟩ | ⟨hkind, -⟩ := h <;> simp [hkind]

theorem Collides.kind_eq_handler_iff (h : r.Collides r') :
    r.kind = .handler ↔ r'.kind = .handler := by
  cases h with
  | configs h h' => exact iff_of_false h.kind_ne_handler h'.kind_ne_handler
  | handlers h h' => exact iff_of_true h.1 h'.1

end ArtifactRequest

/-! The primary configuration. -/

namespace Plan

variable {env : Environment} {dir : Path} {url : String} {rs : List ArtifactRequest}

theorem cons_of_plan (h : plan env dir (some url) = .ok rs) : ∃ rest,
    rs = primaryRequest dir url :: rest ∧ ∀ r, r ∈ rest ↔
      (∃ v ∈ wanted env configStart, r = answer dir .config configStart v) ∨
        ∃ v ∈ wanted env handlerStart, r = answer dir .handler handlerStart v := by
  obtain ⟨-, -, rfl⟩ := plan_eq_ok.1 h
  refine ⟨(wanted env configStart).map _ ++ (wanted env handlerStart).map _, rfl, fun r => ?_⟩
  simp only [List.mem_append, List.mem_map, eq_comm]

/-- The variables whose downloads are kept where the primary configuration is. -/
theorem shares_primary_iff (h : plan env dir (some url) = .ok rs) : ∃ rest,
    rs = primaryRequest dir url :: rest ∧
      ∀ name, (∃ r ∈ rest, r.source = name ∧ r.path = (primaryRequest dir url).path) ↔
        ∃ suffix, name = "CONFIG_URL_" ++ suffix ∧ Text.lowercase suffix = "config" ∧
          ∃ text, env.get? name = some text ∧ text ≠ "" := by
  obtain ⟨rest, rfl, hrest⟩ := cons_of_plan h
  have hpath {r : ArtifactRequest} (hr : r ∈ rest) {file : String} (hkept : r.IsKeptAs file) :
      r.path = (primaryRequest dir url).path ↔ file = "config.yaml" := by
    have hlies := liesIn_of_mem_plan h (List.mem_cons_of_mem _ hr)
    exact hlies.path_eq_iff_name_eq (primaryRequest_liesIn dir url) hkept (.primary rfl)
  refine ⟨rest, rfl, fun name => ?_⟩
  constructor
  · rintro ⟨r, hr, rfl, hsame⟩
    rcases (hrest r).1 hr with ⟨v, hv, rfl⟩ | ⟨v, hv, rfl⟩
    · have hfile := (hpath hr (.config rfl rfl)).1 hsame
      have hstem : Text.lowercase v.1 = "config" := (String.append_left_inj ".yaml").1 hfile
      exact ⟨v.1, rfl, hstem, v.2, ((isAskedFor_wanted env _).mem_iff v.1 v.2).1 hv⟩
    · have hfile := (hpath hr (.handler rfl rfl)).1 hsame
      exact absurd hfile.symm (ArtifactRequest.config_ne_handler "config" _)
  · rintro ⟨suffix, rfl, hstem, text, hget⟩
    have hv := ((isAskedFor_wanted env "CONFIG_URL_").mem_iff suffix text).2 hget
    have hr := (hrest _).2 (.inl ⟨_, hv, rfl⟩)
    refine ⟨_, hr, rfl, (hpath hr (.config rfl rfl)).2 ?_⟩
    rw [hstem]
    rfl

end Plan

/-- Two requests of a plan are for one file, whether their paths are compared as they are written or
step by step, if and only if both are for handlers or both for configurations and their files are
named for the same. What overwrites the primary configuration are the variables `CONFIG_URL_…` with a
URL whose suffix is `config` in lower case. -/
theorem requests_collide_iff {env : Environment} {dir : Path} {primary : Option String}
    {rs : List ArtifactRequest} (h : plan env dir primary = .ok rs) :
    (∀ r ∈ rs, ∀ r' ∈ rs,
      (r.path = r'.path ↔ r.Collides r') ∧ (r.path.steps = r'.path.steps ↔ r.Collides r') ∧
      (r.kind = .handler → r'.kind ≠ .handler → r.path ≠ r'.path)) ∧
    ∀ url, primary = some url → ∃ first rest, rs = first :: rest ∧ first.kind = .primaryConfig ∧
      ∀ name, (∃ r ∈ rest, r.source = name ∧ r.path = first.path) ↔
        ∃ suffix, name = "CONFIG_URL_" ++ suffix ∧ Text.lowercase suffix = "config" ∧
          ∃ text, env.get? name = some text ∧ text ≠ "" := by
  have hlies : ∀ r ∈ rs, r.LiesIn dir := fun r hr => Plan.liesIn_of_mem_plan h hr
  constructor
  · intro r hr r' hr'
    have hpath := (hlies r hr).path_eq_iff (hlies r' hr')
    refine ⟨hpath, (hlies r hr).steps_eq_iff (hlies r' hr'), ?_⟩
    intro hhandler hnot heq
    exact hnot ((hpath.1 heq).kind_eq_handler_iff.1 hhandler)
  · rintro url rfl
    obtain ⟨rest, rfl, hshares⟩ := Plan.shares_primary_iff h
    exact ⟨_, rest, rfl, rfl, hshares⟩

/-! Two spellings of a suffix, one that meets the primary configuration, and a handler that does
not. -/

namespace Plan

def spellings : Environment :=
  .ofPairs [(Utf8.encode "CONFIG_URL_Config", Utf8.encode "http://h/a"),
    (Utf8.encode "CONFIG_URL_ΣΟΣ", Utf8.encode "http://h/b"),
    (Utf8.encode "CONFIG_URL_σος", Utf8.encode "http://h/c"),
    (Utf8.encode "HANDLER_URL_config", Utf8.encode "http://h/d")]

end Plan

theorem requests_collide_iff_sample :
    ∃ rs, plan Plan.spellings (.ofText "/c") (some "http://h/") = .ok rs ∧
      rs.map (·.path) = [.ofText "/c/config.yaml", .ofText "/c/config.yaml", .ofText "/c/σος.yaml",
        .ofText "/c/σος.yaml", .ofText "/c/config_handler.py"] ∧
      ∀ r ∈ rs, ∀ r' ∈ rs, r.path = r'.path ↔ r.Collides r' := by
  have hplan : plan Plan.spellings (.ofText "/c") (some "http://h/") = .ok
      [⟨"http://h/", .ofText "/c/config.yaml", .primaryConfig, "LITELLM_CONFIG_URL"⟩,
        ⟨"http://h/a", .ofText "/c/config.yaml", .config, "CONFIG_URL_Config"⟩,
        ⟨"http://h/b", .ofText "/c/σος.yaml", .config, "CONFIG_URL_ΣΟΣ"⟩,
        ⟨"http://h/c", .ofText "/c/σος.yaml", .config, "CONFIG_URL_σος"⟩,
        ⟨"http://h/d", .ofText "/c/config_handler.py", .handler, "HANDLER_URL_config"⟩] := by
    decide +kernel
  refine ⟨_, hplan, rfl, fun r hr r' hr' => ?_⟩
  exact ((requests_collide_iff hplan).1 r hr r' hr').1

end Prelaunch
