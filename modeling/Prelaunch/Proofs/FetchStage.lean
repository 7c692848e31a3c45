import Mathlib.Control.Monad.Basic
import Prelaunch.Proofs.Construction
import Prelaunch.Proofs.Delivery
import Prelaunch.Proofs.Preparation

/-!
The downloads as a stage of the whole preparation: what they ask for, where they stop, and what the
tree holds then.
-/

namespace Prelaunch.Bootstrap

/-- The downloads of a plan go into one directory, so different paths of it are different files. -/
theorem IsBuilt.hasWritten {c : Config} {env : Environment} {b : Bootstrap}
    (hbuilt : IsBuilt c env b) {m : Machine} {broker : Broker} {t ensured t' : FileTree}
    {written : List (ArtifactRequest × Bytes)} {failure : Option FetchError}
    (hdir : t.ensureDirectory m.workingDir b.config.bootstrap.configDir = (ensured, .ok ()))
    (hdownloads : Downloads m b.client broker ensured b.artifacts written failure t') :
    FileTree.HasWritten m.workingDir (written.map fun w => (w.1.path, w.2)) ensured t' := by
  have hempty := hbuilt.configDir_isEmpty
  obtain ⟨loc, -, hwalk⟩ := FileTree.ensureDirectory_find hempty hdir
  refine hdownloads.hasWritten hempty hwalk fun r hr => ?_
  rw [hbuilt.config]
  exact isChildOf_of_mem_plan hbuilt.plan hr

/-- Once there is a working directory and a scheme for the provider, or no need of one, the requests
of the plan are carried out in order up to the first that fails, and its failure is the result: no
content comes from its URL, or there is no place for it. What is written is what the URLs deliver.
The working directory and its missing parents are added to the tree, each path holds the last content
written to it, and everything else is as it was. -/
theorem prepare_fetches_in_plan_order {c : Config} {env₀ : Environment} {start : Progress}
    {b : Bootstrap} (hmake : ((make c env₀).run start).1 = .ok b) {m : Machine} {p : Progress}
    {ensured : FileTree} {provider : Option ProviderScheme}
    (hdir : p.files.ensureDirectory m.workingDir b.config.bootstrap.configDir = (ensured, .ok ()))
    (hgrant : ((b.providerScheme m).run { p with files := ensured }).1 = .ok provider)
    (args : List Bytes) (env : Environment) :
    ∃ (written : List (ArtifactRequest × Bytes)) (rest : List ArtifactRequest)
      (result : Except BootstrapError Prepared) (after : Progress),
      (b.prepare m args env).run p = (result, after) ∧
      b.artifacts = written.map (·.1) ++ rest ∧
      (∀ w ∈ written, Download.Delivers m.network b.client w.1.url
        ((b.broker provider).choose w.1.url).header? w.2) ∧
      (∀ w ∈ written, ∀ s, ((Download.content m b.client w.1.url
        ((b.broker provider).choose w.1.url).header?).run s).1 = .ok w.2) ∧
      (∀ r ∈ rest.head?, (Download.Withheld m.network b.client r.url
          ((b.broker provider).choose r.url).header? ∨ after.files.Blocks m.workingDir r.path) ∧
        ∃ e, result = .error (.fetch e) ∧ ∀ s : Progress, s.files = after.files →
        ((Download.fetch m b.client r.url r.path
          ((b.broker provider).choose r.url).header?).run s).1 = .error e) ∧
      after.sent = ((b.providerScheme m).run { p with files := ensured }).2.sent ++
        (written.map (·.1) ++ rest.take 1).flatMap (fun r =>
          (b.client.get m.network r.url ((b.broker provider).choose r.url).header?.toList).sent) ∧
      (∃ loc, ensured.find m.workingDir b.config.bootstrap.configDir = .ok (loc, .directory)) ∧
      FileTree.AddsDirectories (FileTree.start m.workingDir b.config.bootstrap.configDir)
        b.config.bootstrap.configDir.steps p.files ensured ∧
      FileTree.HasWritten m.workingDir (written.map fun w => (w.1.path, w.2)) ensured after.files ∧
      (rest = [] → ∀ launch, Launch.make b.config.bootstrap args env = .ok launch →
        written.length = b.artifacts.length ∧
        result = .ok ⟨written.map fun w => ⟨w.1.kind, w.1.path, w.2.length⟩, launch⟩) := by
  have hbuilt := isBuilt_of_make hmake
  -- asking the provider leaves the files alone, so the downloads start from the ensured directory
  obtain ⟨q, hq⟩ : ∃ q, (b.providerScheme m).run { p with files := ensured } = (.ok provider, q) :=
    ⟨_, Prod.ext hgrant rfl⟩
  have hfiles : q.files = ensured := by
    obtain ⟨events, hrun⟩ := b.run_providerScheme m { p with files := ensured }
    rw [hq] at hrun
    rw [(Prod.mk.inj hrun).2]
  obtain ⟨loc, hfind, -⟩ := FileTree.ensureDirectory_find hbuilt.configDir_isEmpty hdir
  have hadds := FileTree.ensureDirectory_adds p.files m.workingDir b.config.bootstrap.configDir
  rw [hdir] at hadds
  obtain ⟨written, failure, after, hdownloads, hsent, hrun⟩ :=
    b.run_prepare_of_provided args env hdir hq
  rw [hfiles] at hdownloads
  obtain ⟨rest, hsplit, hrest⟩ := hdownloads.split
  refine ⟨written, rest, _, after, hrun, hsplit,
    fun w hw => Download.arrival_eq_ok.1 (hdownloads.arrival w hw), hdownloads.content, ?_, ?_,
    ⟨loc, hfind⟩, hadds, hbuilt.hasWritten hdir hdownloads, ?_⟩
  · intro r hr
    obtain ⟨-, rfl⟩ | ⟨e, r', later, rfl, rfl, hfails⟩ := hrest
    · simp at hr
    · obtain rfl : r' = r := by simpa using hr
      refine ⟨Download.outcome_eq_error_iff.1 ⟨e, hfails⟩, e, rfl, fun s hs => ?_⟩
      rw [Download.fetch_eq_error_iff, hs]
      exact hfails
  · rw [hsent, hsplit, hq]
    simp [List.take_append, List.take_of_length_le, ArtifactRequest.exchange]
  · rintro rfl launch hlaunch
    obtain ⟨rfl, -⟩ | ⟨e, r, later, -, hnone, -⟩ := hrest
    · rw [hsplit]
      refine ⟨by simp, ?_⟩
      simp only [conclusion, hlaunch]
      rfl
    · cases hnone

theorem prepare_fetches_in_plan_order_sample :
    ∃ after, (sample.prepare sampleMachine [] .empty).run { files := .empty } =
        (.error (.fetch (.status "http://h/b" 404)), after) ∧
      Download.Delivers sampleMachine.network sample.client "http://h/a" (some sampleScheme.header)
        (Utf8.encode "a: 1") ∧
      FileTree.HasWritten [] [(.ofText "/d/a.yaml", Utf8.encode "a: 1")]
        (FileTree.empty.put [Utf8.encode "d"] .directory) after.files := by
  have hmake : ((make sampleConfig sampleEnvironment).run { files := .empty }).1 = .ok sample := by
    decide +kernel
  have hdir : FileTree.empty.ensureDirectory [] sampleConfig.bootstrap.configDir =
      (FileTree.empty.put [Utf8.encode "d"] .directory, .ok ()) := rfl
  have hgrant : ((sample.providerScheme sampleMachine).run
      { files := FileTree.empty.put [Utf8.encode "d"] .directory }).1 =
        .ok (some sampleScheme) := by
    decide +kernel
  have hresult : ((sample.prepare sampleMachine [] .empty).run { files := .empty }).1 =
      .error (.fetch (.status "http://h/b" 404)) := by
    decide +kernel
  have hheader : ((sample.broker (some sampleScheme)).choose "http://h/a").header? =
      some sampleScheme.header := by
    decide +kernel
  have hfirst : Download.arrival sampleMachine.network sample.client "http://h/a"
      (some sampleScheme.header) = .ok (Utf8.encode "a: 1") := by
    decide +kernel
  have hsecond : Download.arrival sampleMachine.network sample.client "http://h/b"
      ((sample.broker (some sampleScheme)).choose "http://h/b").header? =
        .error (.status "http://h/b" 404) := by
    decide +kernel
  obtain ⟨written, rest, result, after, hrun, hsplit, hdelivers, -, hfails, -, -, -, hwritten, -⟩ :=
    prepare_fetches_in_plan_order hmake (m := sampleMachine) (p := { files := .empty }) hdir hgrant
      [] .empty
  rw [hrun] at hresult
  obtain rfl : result = .error (.fetch (.status "http://h/b" 404)) := hresult
  refine ⟨after, hrun, Download.arrival_eq_ok.1 hfirst, ?_⟩
  match written, hsplit, hdelivers, hwritten with
  | [], hsplit, _, _ =>
      -- the failure names the second download, so the first one is not where it stops
      obtain rfl : samplePlan = rest := hsplit
      obtain ⟨-, e, he, hfetch⟩ := hfails _ rfl
      obtain rfl : FetchError.status "http://h/b" 404 = e :=
        BootstrapError.fetch.inj (Except.error.inj he)
      have hurl := Download.url_of_fetch_eq_error (hfetch after rfl)
      exact absurd hurl (by decide)
  | [(r, body)], hsplit, hdelivers, hwritten =>
      obtain rfl : _ = r := (List.cons.inj hsplit).1
      have harrival := Download.arrival_eq_ok.2 (hdelivers _ List.mem_cons_self)
      rw [hheader, hfirst] at harrival
      obtain rfl : Utf8.encode "a: 1" = body := Except.ok.inj harrival
      exact hwritten
  | _ :: (r, body) :: _, hsplit, hdelivers, _ =>
      obtain rfl : _ = r := (List.cons.inj (List.cons.inj hsplit).2).1
      have harrival := Download.arrival_eq_ok.2
        (hdelivers _ (List.mem_cons_of_mem _ List.mem_cons_self))
      rw [hsecond] at harrival
      cases harrival

end Prelaunch.Bootstrap
