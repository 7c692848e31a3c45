import Prelaunch.Proofs.Containment
import Prelaunch.Proofs.Environment
import Prelaunch.Proofs.Utf8.Order

/-!
What a plan consists of. The variables of one beginning that have a URL are a list of their own, in
the order of their names, and a plan answers each of them with one request or fails with the first
whose suffix is of no use.
-/

namespace Prelaunch

namespace Plan

variable {env : Environment} {start : String} {v : String × String}

/-- The suffix and the URL of a variable that has one. -/
def wanted? (start : String) (pair : String × String) : Option (String × String) :=
  if pair.2.isEmpty then none else (Text.dropStart? start pair.1).map (·, pair.2)

theorem wanted?_eq_some {pair : String × String} :
    wanted? start pair = some v ↔ pair = (start ++ v.1, v.2) ∧ v.2 ≠ "" := by
  unfold wanted?
  split
  · rename_i hurl
    simp only [reduceCtorEq, false_iff, not_and, not_not]
    rintro rfl
    exact String.isEmpty_iff.1 hurl
  · rename_i hurl
    rw [Option.map_eq_some_iff]
    constructor
    · rintro ⟨suffix, hsuffix, rfl⟩
      exact ⟨Prod.ext (Text.dropStart?_eq_some.1 hsuffix) rfl, by simpa using hurl⟩
    · rintro ⟨rfl, -⟩
      exact ⟨v.1, Text.dropStart?_eq_some.2 rfl, rfl⟩

theorem wanted?_append (start suffix url : String) :
    wanted? start (start ++ suffix, url) = if url.isEmpty then none else some (suffix, url) := by
  simp [wanted?, Text.dropStart?_eq_some.2 rfl]

def wanted (env : Environment) (start : String) : List (String × String) :=
  (env.startingWith start).filterMap (wanted? start)

/-- All that a beginning asks for, each variable given by its suffix and its URL: none is left out, no
other is taken in, and the names increase byte by byte, so that none is there twice. -/
structure IsAskedFor (env : Environment) (start : String) (vars : List (String × String)) : Prop where
  mem_iff : ∀ suffix url,
    (suffix, url) ∈ vars ↔ env.get? (start ++ suffix) = some url ∧ url ≠ ""
  increasing : vars.Pairwise fun v w => Utf8.encode (start ++ v.1) < Utf8.encode (start ++ w.1)

theorem IsAskedFor.forall_iff {vars : List (String × String)} (h : IsAskedFor env start vars)
    {P : String → Prop} :
    (∀ v ∈ vars, P v.1) ↔
      ∀ suffix url, env.get? (start ++ suffix) = some url → url ≠ "" → P suffix := by
  constructor
  · intro hP suffix url hget hurl
    exact hP (suffix, url) ((h.mem_iff suffix url).2 ⟨hget, hurl⟩)
  · intro hP v hv
    obtain ⟨hget, hurl⟩ := (h.mem_iff v.1 v.2).1 hv
    exact hP v.1 v.2 hget hurl

theorem isAskedFor_wanted (env : Environment) (start : String) :
    IsAskedFor env start (wanted env start) where
  mem_iff := by
    intro suffix url
    rw [wanted, Environment.startingWith_eq_filter, List.mem_filterMap]
    constructor
    · rintro ⟨pair, hpair, h⟩
      obtain ⟨rfl, hurl⟩ := wanted?_eq_some.1 h
      exact ⟨Environment.mem_toList.1 (List.mem_filter.1 hpair).1, hurl⟩
    · rintro ⟨hget, hurl⟩
      refine ⟨(start ++ suffix, url), List.mem_filter.2 ⟨Environment.mem_toList.2 hget, ?_⟩, ?_⟩
      · exact Text.startsWith_iff.2 ⟨suffix, rfl⟩
      · exact wanted?_eq_some.2 ⟨rfl, hurl⟩
  increasing := by
    rw [wanted, Environment.startingWith_eq_filter, List.pairwise_filterMap]
    apply (env.texts.sorted.filter _).imp
    intro pair pair' hlt v hv w hw
    obtain ⟨rfl, -⟩ := wanted?_eq_some.1 hv
    obtain ⟨rfl, -⟩ := wanted?_eq_some.1 hw
    exact Utf8.encode_lt_encode hlt

/-! The requests of one beginning. -/

def candidateFor (kind : ArtifactKind) (start : String) (v : String × String) : Candidate :=
  ⟨kind, start, start ++ v.1, v.2⟩

/-- The request that answers a variable. -/
def answer (dir : Path) (kind : ArtifactKind) (start : String) (v : String × String) :
    ArtifactRequest :=
  ⟨v.2, dir.join (Artifact.fileNameOf kind v.1), kind, start ++ v.1⟩

theorem filter_candidatesFor (env : Environment) (start : String) (kind : ArtifactKind) :
    (candidatesFor env start kind).filter (!·.isVacant) =
      (wanted env start).map (candidateFor kind start) := by
  have hnames : ∀ pair ∈ env.startingWith start, ∃ suffix, pair.1 = start ++ suffix :=
    fun pair hpair => mem_startingWith hpair
  unfold candidatesFor wanted
  generalize env.startingWith start = pairs at hnames ⊢
  induction pairs with
  | nil => rfl
  | cons pair rest ih =>
      obtain ⟨⟨suffix, hsuffix⟩, hrest⟩ := List.forall_mem_cons.1 hnames
      obtain ⟨name, url⟩ := pair
      obtain rfl : name = start ++ suffix := hsuffix
      rw [List.map_cons, List.filter_cons, List.filterMap_cons, wanted?_append, ih hrest]
      cases hurl : url.isEmpty <;> simp [Candidate.isVacant, candidateFor, hurl]

theorem request_candidateFor (dir : Path) (kind : ArtifactKind) (start : String)
    (v : String × String) :
    (candidateFor kind start v).request dir =
      if Artifact.isContained v.1 then .ok (answer dir kind start v)
      else .error ⟨start ++ v.1, v.1⟩ := by
  unfold Candidate.request Candidate.fileName Artifact.fileName candidateFor
  dsimp only
  rw [Text.dropStart?_eq_some.2 rfl, Option.getD_some]
  split <;> rfl

section Request

variable {dir : Path} {kind : ArtifactKind}

theorem request_candidateFor_eq_ok {r : ArtifactRequest} :
    (candidateFor kind start v).request dir = .ok r ↔
      ¬ Artifact.MayLeave v.1 ∧ r = answer dir kind start v := by
  rw [request_candidateFor, ← Artifact.isContained_iff]
  split
  · rename_i hcontained
    simp [hcontained, eq_comm (a := r)]
  · rename_i hleaves
    simp [hleaves]

theorem request_candidateFor_eq_error {e : UnusableName} :
    (candidateFor kind start v).request dir = .error e ↔
      Artifact.MayLeave v.1 ∧ e = ⟨start ++ v.1, v.1⟩ := by
  rw [request_candidateFor]
  split
  · rename_i hcontained
    simp [Artifact.isContained_iff.1 hcontained]
  · rename_i hleaves
    simp [not_not.1 (Artifact.isContained_iff.not.1 hleaves), eq_comm (a := e)]

end Request

/-- The requests that answer all that one beginning asks for. -/
def requestsFor (env : Environment) (dir : Path) (start : String) (kind : ArtifactKind) :
    Except UnusableName (List ArtifactRequest) :=
  ((candidatesFor env start kind).filter (!·.isVacant)).mapM (·.request dir)

theorem plan_eq_requestsFor (env : Environment) (dir : Path) (primary : Option String) :
    plan env dir primary = do
      let configs ← requestsFor env dir configStart .config
      let handlers ← requestsFor env dir handlerStart .handler
      return (primary.map (primaryRequest dir)).toList ++ (configs ++ handlers) := by
  unfold plan candidates requestsFor
  rw [List.filter_append, List.mapM_append]
  simp only [bind_assoc, pure_bind]

/-- The first of some variables whose suffix is of no use, and what is said of it. -/
def IsFirstUnusable (start : String) (vars : List (String × String)) (e : UnusableName) : Prop :=
  ∃ before v after, vars = before ++ v :: after ∧ (∀ w ∈ before, ¬ Artifact.MayLeave w.1) ∧
    Artifact.MayLeave v.1 ∧ e = ⟨start ++ v.1, v.1⟩

section Requests

variable {dir : Path} {kind : ArtifactKind}

theorem requestsFor_eq_ok {rs : List ArtifactRequest} :
    requestsFor env dir start kind = .ok rs ↔
      (∀ v ∈ wanted env start, ¬ Artifact.MayLeave v.1) ∧
        rs = (wanted env start).map (answer dir kind start) := by
  rw [requestsFor, filter_candidatesFor, List.mapM_map]
  have hall (h : ∀ v ∈ wanted env start, ¬ Artifact.MayLeave v.1) :
      (wanted env start).mapM ((·.request dir) ∘ candidateFor kind start) =
        .ok ((wanted env start).map (answer dir kind start)) :=
    mapM_eq_ok_of_forall fun v hv => request_candidateFor_eq_ok.2 ⟨h v hv, rfl⟩
  constructor
  · intro h
    have husable : ∀ v ∈ wanted env start, ¬ Artifact.MayLeave v.1 := by
      intro v hv
      obtain ⟨r, hr⟩ := exists_of_mapM_eq_ok h hv
      exact (request_candidateFor_eq_ok.1 hr).1
    rw [hall husable] at h
    exact ⟨husable, (Except.ok.inj h).symm⟩
  · rintro ⟨husable, rfl⟩
    exact hall husable

theorem requestsFor_eq_error {e : UnusableName} :
    requestsFor env dir start kind = .error e ↔ IsFirstUnusable start (wanted env start) e := by
  rw [requestsFor, filter_candidatesFor, List.mapM_map, mapM_eq_error_iff]
  simp only [Function.comp_apply, request_candidateFor_eq_ok, request_candidateFor_eq_error,
    exists_and_left, exists_eq, and_true, IsFirstUnusable]

end Requests

section Whole

variable {dir : Path} {primary : Option String}

theorem plan_eq_ok {rs : List ArtifactRequest} :
    plan env dir primary = .ok rs ↔
      (∀ v ∈ wanted env configStart, ¬ Artifact.MayLeave v.1) ∧
      (∀ v ∈ wanted env handlerStart, ¬ Artifact.MayLeave v.1) ∧
      rs = (primary.map (primaryRequest dir)).toList ++
        ((wanted env configStart).map (answer dir .config configStart) ++
          (wanted env handlerStart).map (answer dir .handler handlerStart)) := by
  rw [plan_eq_requestsFor, bind_eq_ok]
  constructor
  · rintro ⟨configs, hconfigs, h⟩
    obtain ⟨handlers, hhandlers, h⟩ := bind_eq_ok.1 h
    obtain ⟨hconfig, rfl⟩ := requestsFor_eq_ok.1 hconfigs
    obtain ⟨hhandler, rfl⟩ := requestsFor_eq_ok.1 hhandlers
    exact ⟨hconfig, hhandler, (Except.ok.inj h).symm⟩
  · rintro ⟨hconfigs, hhandlers, rfl⟩
    refine ⟨_, requestsFor_eq_ok.2 ⟨hconfigs, rfl⟩, ?_⟩
    exact bind_eq_ok.2 ⟨_, requestsFor_eq_ok.2 ⟨hhandlers, rfl⟩, rfl⟩

theorem plan_eq_error {e : UnusableName} :
    plan env dir primary = .error e ↔
      IsFirstUnusable configStart (wanted env configStart) e ∨
        (∀ v ∈ wanted env configStart, ¬ Artifact.MayLeave v.1) ∧
          IsFirstUnusable handlerStart (wanted env handlerStart) e := by
  rw [plan_eq_requestsFor, bind_eq_error, requestsFor_eq_error]
  refine or_congr_right ?_
  constructor
  · rintro ⟨configs, hconfigs, h⟩
    refine ⟨(requestsFor_eq_ok.1 hconfigs).1, ?_⟩
    rcases bind_eq_error.1 h with h | ⟨handlers, -, h⟩
    · exact requestsFor_eq_error.1 h
    · cases h
  · rintro ⟨hconfigs, hhandlers⟩
    refine ⟨_, requestsFor_eq_ok.2 ⟨hconfigs, rfl⟩, ?_⟩
    exact bind_eq_error.2 (.inl (requestsFor_eq_error.2 hhandlers))

end Whole

end Plan

/-- A plan succeeds if and only if every variable `CONFIG_URL_…` or `HANDLER_URL_…` with a URL has a
suffix of which a file can be named. It is then the primary request, one configuration for each of the
first and one handler for each of the second, in the order of the bytes of their names. Otherwise the
first of them in this order that has no such suffix is named as the reason. -/
theorem plan_answers_every_variable (env : Environment) (dir : Path) (primary : Option String) :
    ∃ configs handlers : List (String × String),
      Plan.IsAskedFor env "CONFIG_URL_" configs ∧ Plan.IsAskedFor env "HANDLER_URL_" handlers ∧
      ((∃ rs, plan env dir primary = .ok rs) ↔
        ∀ start ∈ ["CONFIG_URL_", "HANDLER_URL_"], ∀ suffix url,
          env.get? (start ++ suffix) = some url → url ≠ "" → ¬ Artifact.MayLeave suffix) ∧
      (∀ rs, plan env dir primary = .ok rs →
        rs = (primary.map fun url => ⟨url, dir.join "config.yaml", .primaryConfig,
            "LITELLM_CONFIG_URL"⟩).toList ++
          configs.map (fun v =>
            ⟨v.2, dir.join (Text.lowercase v.1 ++ ".yaml"), .config, "CONFIG_URL_" ++ v.1⟩) ++
          handlers.map fun v =>
            ⟨v.2, dir.join (Text.lowercase v.1 ++ "_handler.py"), .handler,
              "HANDLER_URL_" ++ v.1⟩) ∧
      ∀ e, plan env dir primary = .error e ↔
        Plan.IsFirstUnusable "CONFIG_URL_" configs e ∨
          (∀ v ∈ configs, ¬ Artifact.MayLeave v.1) ∧
            Plan.IsFirstUnusable "HANDLER_URL_" handlers e := by
  have hconfigs : Plan.IsAskedFor env "CONFIG_URL_" (Plan.wanted env "CONFIG_URL_") :=
    Plan.isAskedFor_wanted ..
  have hhandlers : Plan.IsAskedFor env "HANDLER_URL_" (Plan.wanted env "HANDLER_URL_") :=
    Plan.isAskedFor_wanted ..
  refine ⟨_, _, hconfigs, hhandlers, ?succeeds, ?requests, fun e => Plan.plan_eq_error⟩
  case requests =>
    intro rs hplan
    obtain ⟨-, -, rfl⟩ := Plan.plan_eq_ok.1 hplan
    rw [List.append_assoc]
    rfl
  case succeeds =>
    rw [List.forall_mem_cons, List.forall_mem_singleton, ← hconfigs.forall_iff,
      ← hhandlers.forall_iff]
    constructor
    · rintro ⟨rs, hplan⟩
      obtain ⟨hconfig, hhandler, -⟩ := Plan.plan_eq_ok.1 hplan
      exact ⟨hconfig, hhandler⟩
    · rintro ⟨hconfig, hhandler⟩
      exact ⟨_, Plan.plan_eq_ok.2 ⟨hconfig, hhandler, rfl⟩⟩

end Prelaunch
