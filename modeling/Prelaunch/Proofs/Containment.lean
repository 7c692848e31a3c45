import Mathlib.Data.List.TakeWhile
import Prelaunch.Proofs.ArtifactName
import Prelaunch.Proofs.Credential

/-!
A plan stays in its directory. A suffix is judged as it is written, and the file is named by its
lower case; the judgement is good for the name because lower-casing puts no separator and no NUL in
the place of another character.
-/

namespace Prelaunch

namespace Artifact

/-- A name that leads into the directory where it is looked up, and nowhere else. -/
structure IsFileName (name : String) : Prop where
  ne_empty : name ≠ ""
  ne_current : name ≠ "."
  ne_parent : name ≠ ".."
  notMem : ∀ c ∈ ['/', '\\', '\x00'], c ∉ name.toList

/-- A suffix with which a file could lie outside its directory or have no name. -/
def MayLeave (suffix : String) : Prop :=
  suffix = "" ∨ (∃ c ∈ ['/', '\\', '\x00'], c ∈ suffix.toList) ∨ ∀ c ∈ suffix.toList, c = '.'

theorem isContained_iff {suffix : String} : isContained suffix = true ↔ ¬ MayLeave suffix := by
  have hmarks : suffix.toList.any (fun c => c == '/' || c == '\\' || c == '\x00') = true ↔
      ∃ c ∈ ['/', '\\', '\x00'], c ∈ suffix.toList := by
    simp [List.any_eq_true, and_or_left, exists_or, or_assoc]
  have hdots : suffix.toList.all (· == '.') = true ↔ ∀ c ∈ suffix.toList, c = '.' := by
    simp [List.all_eq_true]
  simp only [isContained, MayLeave, Bool.and_eq_true, Bool.not_eq_true', ← Bool.not_eq_true, hmarks,
    hdots, String.isEmpty_iff, not_or, and_assoc]

/-- Both outcomes of naming a file, each with the suffixes that have it. -/
theorem fileName_iff (source start : String) (kind : ArtifactKind) :
    let suffix := (Text.dropStart? start source).getD source
    (fileName source start kind = .error ⟨source, suffix⟩ ↔ MayLeave suffix) ∧
      (fileName source start kind = .ok (fileNameOf kind suffix) ↔ ¬ MayLeave suffix) := by
  intro suffix
  rw [← isContained_iff, ← not_iff_not (b := MayLeave suffix), ← isContained_iff]
  unfold fileName
  change ((if isContained suffix then _ else _) ≠ _ ↔ _) ∧ _
  cases hcontained : isContained suffix <;> simp [suffix, hcontained]

theorem forall_mem_marks {s : String} (hslash : '/' ∉ s.toList) (hback : '\\' ∉ s.toList)
    (hnul : '\x00' ∉ s.toList) : ∀ c ∈ ['/', '\\', '\x00'], c ∉ s.toList := by
  rw [List.forall_mem_cons, List.forall_mem_cons, List.forall_mem_singleton]
  exact ⟨hslash, hback, hnul⟩

theorem isFileName_stem_append {suffix ending : String} (h : isContained suffix = true)
    (hmarks : ∀ c ∈ ['/', '\\', '\x00'], c ∉ ending.toList) (hlong : 2 < ending.toList.length) :
    IsFileName (Text.lowercase suffix ++ ending) := by
  have hlength : 2 < (Text.lowercase suffix ++ ending).toList.length := by
    rw [String.toList_append, List.length_append]
    omega
  refine ⟨?_, ?_, ?_, ?_⟩
  · intro heq
    simp [heq] at hlength
  · intro heq
    simp [heq] at hlength
  · intro heq
    simp [heq] at hlength
  · intro c hc
    rw [String.toList_append, List.mem_append, not_or]
    exact ⟨notMem_lowercase_of_isContained h (by simpa using hc), hmarks c hc⟩

theorem isFileName_primaryFileName : IsFileName primaryFileName :=
  ⟨by decide, by decide, by decide, forall_mem_marks (by decide) (by decide) (by decide)⟩

theorem isFileName_fileNameOf (kind : ArtifactKind) {suffix : String}
    (h : isContained suffix = true) : IsFileName (fileNameOf kind suffix) := by
  cases kind with
  | primaryConfig => exact isFileName_primaryFileName
  | config =>
      have hmarks := forall_mem_marks (s := ".yaml") (by decide) (by decide) (by decide)
      exact isFileName_stem_append h hmarks (by decide)
  | handler =>
      have hmarks := forall_mem_marks (s := "_handler.py") (by decide) (by decide) (by decide)
      exact isFileName_stem_append h hmarks (by decide)

end Artifact

/-- The name of a request's file, which its kind and its variable give. -/
inductive ArtifactRequest.IsKeptAs (r : ArtifactRequest) : String → Prop where
  | primary (hkind : r.kind = .primaryConfig) : IsKeptAs r "config.yaml"
  | config {suffix} (hkind : r.kind = .config) (hsource : r.source = "CONFIG_URL_" ++ suffix) :
      IsKeptAs r (Text.lowercase suffix ++ ".yaml")
  | handler {suffix} (hkind : r.kind = .handler) (hsource : r.source = "HANDLER_URL_" ++ suffix) :
      IsKeptAs r (Text.lowercase suffix ++ "_handler.py")

/-- The file lies in the directory itself: the path adds one name to it, by which the request is
kept. -/
def ArtifactRequest.LiesIn (r : ArtifactRequest) (dir : Path) : Prop :=
  ∃ name, r.path = dir.join name ∧ Artifact.IsFileName name ∧ r.IsKeptAs name ∧
    r.path.names = dir.names ++ [Utf8.encode name] ∧ r.path.isAbsolute = dir.isAbsolute

namespace Plan

theorem mem_startingWith {env : Environment} {start : String} {pair : String × String}
    (h : pair ∈ env.startingWith start) : ∃ suffix, pair.1 = start ++ suffix :=
  Text.startsWith_iff.1
    (List.mem_takeWhile_imp (p := fun e : String × String => Text.startsWith start e.1) h)

/-- A candidate is of one of two kinds, and its variable begins as this kind has it. -/
theorem mem_candidates {env : Environment} {c : Candidate} (h : c ∈ candidates env) :
    ∃ suffix, c.source = c.start ++ suffix ∧
      (c.kind = .config ∧ c.start = "CONFIG_URL_" ∨
        c.kind = .handler ∧ c.start = "HANDLER_URL_") := by
  unfold candidates candidatesFor at h
  rcases List.mem_append.1 h with h | h
  · obtain ⟨pair, hpair, rfl⟩ := List.mem_map.1 h
    obtain ⟨suffix, hsource⟩ := mem_startingWith hpair
    exact ⟨suffix, hsource, .inl ⟨rfl, rfl⟩⟩
  · obtain ⟨pair, hpair, rfl⟩ := List.mem_map.1 h
    obtain ⟨suffix, hsource⟩ := mem_startingWith hpair
    exact ⟨suffix, hsource, .inr ⟨rfl, rfl⟩⟩

theorem liesIn_of_fileName {dir : Path} {r : ArtifactRequest} {name : String}
    (hpath : r.path = dir.join name) (hfile : Artifact.IsFileName name) (hkept : r.IsKeptAs name)
    (hnormal : Path.IsNormalName (Utf8.encode name)) : r.LiesIn dir :=
  ⟨name, hpath, hfile, hkept, hpath ▸ Path.names_join hnormal, hpath ▸ Path.isAbsolute_join hnormal⟩

theorem primaryRequest_liesIn (dir : Path) (url : String) : (primaryRequest dir url).LiesIn dir :=
  liesIn_of_fileName rfl Artifact.isFileName_primaryFileName (.primary rfl)
    Artifact.isNormalName_primaryFileName

theorem Candidate.liesIn_of_request {env : Environment} {dir : Path} {c : Candidate}
    {r : ArtifactRequest} (hc : c ∈ candidates env) (h : c.request dir = .ok r) : r.LiesIn dir := by
  obtain ⟨hcontained, rfl⟩ := request_eq_ok h
  refine liesIn_of_fileName rfl (Artifact.isFileName_fileNameOf c.kind hcontained) ?_
    (Artifact.isNormalName_fileNameOf c.kind hcontained)
  obtain ⟨suffix, hsource, hkinds⟩ := mem_candidates hc
  have hsuffix : c.suffix = suffix := by
    rw [Candidate.suffix, Text.dropStart?_eq_some.2 hsource, Option.getD_some]
  rw [hsuffix]
  obtain ⟨kind, start, source, url⟩ := c
  obtain ⟨rfl, rfl⟩ | ⟨rfl, rfl⟩ := hkinds
  · exact .config rfl hsource
  · exact .handler rfl hsource

theorem liesIn_of_mem_plan {env : Environment} {dir : Path} {primary : Option String}
    {rs : List ArtifactRequest} (h : plan env dir primary = .ok rs) {r : ArtifactRequest}
    (hr : r ∈ rs) : r.LiesIn dir := by
  obtain ⟨url, -, rfl⟩ | ⟨c, hc, hrequest⟩ := mem_plan h hr
  · exact primaryRequest_liesIn dir url
  · exact Candidate.liesIn_of_request hc hrequest

end Plan

/-- Whatever the variables, the directory and the primary URL are, each file of a plan lies in the
directory itself, under a name made from the kind and the variable of its request. A variable gives
no name exactly if its suffix is empty, has a separator or a NUL in it, or only dots. -/
theorem plan_stays_in_directory :
    (∀ env dir primary rs, plan env dir primary = .ok rs → ∀ r ∈ rs, r.LiesIn dir) ∧
      ∀ source start kind,
        let suffix := (Text.dropStart? start source).getD source
        (Artifact.fileName source start kind = .error ⟨source, suffix⟩ ↔
            Artifact.MayLeave suffix) ∧
          (Artifact.fileName source start kind = .ok (Artifact.fileNameOf kind suffix) ↔
            ¬ Artifact.MayLeave suffix) := by
  exact ⟨fun env dir primary rs h r hr => Plan.liesIn_of_mem_plan h hr, Artifact.fileName_iff⟩

/-- The capital sigma that ends a suffix turns into another letter than the others do. -/
theorem plan_stays_in_directory_sample :
    ∃ rs, plan (.ofPairs [(Utf8.encode "CONFIG_URL_ΣΟΣ", Utf8.encode "http://h/a")]) (.ofText "d")
        (some "http://h/") = .ok rs ∧
      rs.map (·.path) = [.ofText "d/config.yaml", .ofText "d/σος.yaml"] ∧
      ∀ r ∈ rs, r.LiesIn (.ofText "d") := by
  have hplan : plan (.ofPairs [(Utf8.encode "CONFIG_URL_ΣΟΣ", Utf8.encode "http://h/a")])
      (.ofText "d") (some "http://h/") = .ok
        [⟨"http://h/", .ofText "d/config.yaml", .primaryConfig, "LITELLM_CONFIG_URL"⟩,
          ⟨"http://h/a", .ofText "d/σος.yaml", .config, "CONFIG_URL_ΣΟΣ"⟩] := by
    decide +kernel
  exact ⟨_, hplan, rfl, plan_stays_in_directory.1 _ _ _ _ hplan⟩

end Prelaunch
