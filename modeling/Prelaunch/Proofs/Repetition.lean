import Prelaunch.Proofs.Construction
import Prelaunch.Proofs.Preparation
import Prelaunch.Proofs.Writing

/-!
A preparation that has succeeded can be repeated. What its downloads write goes to places that stay
free for files, and a place that is written to more than once holds the last content each time the
whole plan is carried out, so the second run ends in the tree from which it starts.
-/

namespace Prelaunch

/-! A directory that is there already. -/

namespace FileTree

variable {t t' : FileTree} {cwd : Location} {p : Path}

theorem LeadsToDirectory.keep {here : Location} {names : List Bytes}
    (h : LeadsToDirectory t here names) (hkeep : KeepsDirectories t t') :
    LeadsToDirectory t' here names := by
  obtain ⟨loc, hwalk, hdir⟩ := h
  exact ⟨loc, hkeep.walk hwalk, hkeep loc hdir⟩

theorem makeWith_of_leadsToDirectory {here : Location} {names : List Bytes}
    (h : LeadsToDirectory t here names) (parents : FileTree × Except FileError Unit) :
    t.makeWith here names parents = (t, .ok ()) := by
  have hthere : t.makeDirectory here names = .error .alreadyExists := by
    obtain ⟨loc, hwalk, hdir⟩ := h
    unfold makeDirectory
    rw [hwalk]
    simp [hdir, bind, Except.bind, throw, throwThe, MonadExceptOf.throw]
  unfold makeWith
  rw [hthere]
  simp only [isDirectoryAt_iff.2 h, beq_self_eq_true, Bool.and_self, if_true]

/-- To ensure a directory again changes nothing. -/
theorem ensureDirectory_again {ensured : FileTree}
    (h : t.ensureDirectory cwd p = (ensured, .ok ())) (hkeep : KeepsDirectories ensured t') :
    t'.ensureDirectory cwd p = (t', .ok ()) := by
  unfold ensureDirectory at h ⊢
  split at h
  · rfl
  · cases h
  · obtain ⟨-, hleads⟩ := makeWith_names_spec t cwd p
    rw [h] at hleads
    exact makeWith_of_leadsToDirectory ((hleads rfl).keep hkeep) _

end FileTree

/-! Downloads carried out again. -/

namespace Downloads

variable {m : Machine} {client : Http.Client} {broker : Broker} {t t' s : FileTree}
  {plan : List ArtifactRequest} {written : List (ArtifactRequest × Bytes)}
  {failure : Option FetchError}

/-- From one tree the downloads of a plan can go one way only. -/
theorem unique {t'' : FileTree} {written' : List (ArtifactRequest × Bytes)}
    {failure' : Option FetchError} (h : Downloads m client broker t plan written failure t')
    (h' : Downloads m client broker t plan written' failure' t'') :
    written = written' ∧ failure = failure' ∧ t' = t'' := by
  induction h generalizing written' with
  | complete t =>
      cases h'
      exact ⟨rfl, rfl, rfl⟩
  | fails hfails =>
      cases h' with
      | fails hfails' =>
          rw [hfails] at hfails'
          exact ⟨rfl, congrArg some (Except.error.inj hfails'), rfl⟩
      | next hnext' =>
          rw [hfails] at hnext'
          cases hnext'
  | next hnext _ ih =>
      cases h' with
      | fails hfails' =>
          rw [hnext] at hfails'
          cases hfails'
      | next hnext' hrest' =>
          rw [hnext] at hnext'
          cases hnext'
          obtain ⟨rfl, rfl, rfl⟩ := ih hrest'
          exact ⟨rfl, rfl, rfl⟩

theorem takes {p : Path} {loc : Location}
    (h : Downloads m client broker t plan written failure t') (hp : t.Takes m.workingDir p loc) :
    t'.Takes m.workingDir p loc := by
  induction h with
  | complete t => exact hp
  | fails hfails => exact hp
  | next hnext _ ih =>
      obtain ⟨loc', hloc', rfl⟩ := FileTree.write_eq_ok_iff.1 (Download.outcome_eq_ok.1 hnext).2
      exact ih (hp.fill hloc' _)

theorem keepsDirectories (h : Downloads m client broker t plan written failure t') :
    FileTree.KeepsDirectories t t' := by
  induction h with
  | complete t => exact .refl t
  | fails hfails => exact .refl _
  | next hnext _ ih =>
      obtain ⟨loc, hloc, rfl⟩ := FileTree.write_eq_ok_iff.1 (Download.outcome_eq_ok.1 hnext).2
      exact (hloc.keepsDirectories _).trans ih

/-- In a tree, the content of a download goes to a location. -/
structure Fills (cwd : Location) (t : FileTree) (d : ArtifactRequest × Bytes)
    (w : Location × Bytes) : Prop where
  takes : t.Takes cwd d.1.path w.1
  content : w.2 = d.2

/-- The downloads put their contents at locations that are free for files to the end. -/
theorem exists_fills (h : Downloads m client broker t plan written failure t') :
    ∃ ws, t' = ws.foldl FileTree.fill t ∧
      List.Forall₂ (Fills m.workingDir t') written ws := by
  induction h with
  | complete t => exact ⟨[], rfl, .nil⟩
  | fails hfails => exact ⟨[], rfl, .nil⟩
  | @next t t₁ t' r body rest written failure hnext hrest ih =>
      obtain ⟨loc, hloc, rfl⟩ := FileTree.write_eq_ok_iff.1 (Download.outcome_eq_ok.1 hnext).2
      obtain ⟨ws, hws, hfills⟩ := ih
      refine ⟨(loc, body) :: ws, hws, .cons ⟨hrest.takes (hloc.fill hloc body), rfl⟩ hfills⟩

/-- Where the locations are free, the same downloads are carried out from any tree, since what comes
from the network has nothing to do with the tree. -/
theorem again {ws : List (Location × Bytes)}
    (h : Downloads m client broker t plan written none t')
    (hfills : List.Forall₂ (Fills m.workingDir s) written ws) :
    Downloads m client broker s plan written none (ws.foldl FileTree.fill s) := by
  generalize hnone : (none : Option FetchError) = failure at h
  induction h generalizing s ws with
  | complete t =>
      cases hfills
      exact .complete s
  | fails hfails => cases hnone
  | @next t t₁ t' r body rest written failure hnext _ ih =>
      obtain ⟨w, ws, ⟨htakes, hcontent⟩, hothers, rfl⟩ :=
        List.forall₂_cons_left_iff.1 hfills
      obtain ⟨loc, content⟩ := w
      obtain rfl : content = body := hcontent
      have hwrite : s.write m.workingDir r.path content = .ok (s.fill (loc, content)) :=
        FileTree.write_eq_ok_iff.2 ⟨loc, htakes, rfl⟩
      have houtcome : r.outcome m client broker s = .ok (content, s.fill (loc, content)) :=
        Download.outcome_eq_ok.2 ⟨(Download.outcome_eq_ok.1 hnext).1, hwrite⟩
      refine .next houtcome (ih ?_ hnone)
      exact hothers.imp fun d w hd => ⟨hd.takes.fill htakes content, hd.content⟩

/-- All downloads carried out again from where they led lead there. -/
theorem repeated (h : Downloads m client broker t plan written none t') :
    Downloads m client broker t' plan written none t' := by
  obtain ⟨ws, hws, hfills⟩ := h.exists_fills
  have hagain := h.again hfills
  rwa [hws, FileTree.foldl_fill_twice, ← hws] at hagain

end Downloads

/-! The whole preparation. -/

namespace Bootstrap

variable {b : Bootstrap} {m : Machine} {args : List Bytes} {env : Environment} {p : Progress}
  {prepared : Prepared}

/-- What is known of a preparation that has succeeded. -/
theorem exists_of_prepare_eq_ok (h : ((b.prepare m args env).run p).1 = .ok prepared) :
    ∃ ensured provider written,
      p.files.ensureDirectory m.workingDir b.config.bootstrap.configDir = (ensured, .ok ()) ∧
      b.provided m = .ok provider ∧
      Downloads m b.client (b.broker provider) ensured b.artifacts written none
        ((b.prepare m args env).run p).2.files ∧
      ((b.prepare m args env).run p).2.sent = p.sent ++ b.asked m.network ++
        (b.artifacts.take (written.length + 1)).flatMap
          (fun r => (r.exchange m b.client (b.broker provider)).sent) ∧
      b.conclusion args env written none = .ok prepared := by
  obtain ⟨result, after, hrun, hstages⟩ := b.stages m args env p
  rw [hrun] at h ⊢
  cases hstages with
  | unusable hdir => cases h
  | refused hdir hgrant => cases h
  | @provided ensured provider written failure after hdir hgrant hdownloads hsent =>
      cases failure with
      | some e => cases h
      | none => exact ⟨ensured, provider, written, hdir, hgrant, hdownloads, hsent, h⟩

/-- A preparation that has succeeded on some files succeeds again on what it leaves of them, with the
same result. The second run leaves every file and directory as it is and sends what the first one
has sent, header by header. -/
theorem prepare_again_changes_nothing (h : ((b.prepare m args env).run p).1 = .ok prepared) :
    ∃ sent, ((b.prepare m args env).run p).2.sent = p.sent ++ sent ∧
      ∀ q : Progress, q.files = ((b.prepare m args env).run p).2.files →
        ((b.prepare m args env).run q).1 = .ok prepared ∧
        ((b.prepare m args env).run q).2.files = q.files ∧
        ((b.prepare m args env).run q).2.sent = q.sent ++ sent := by
  obtain ⟨ensured, provider, written, hdir, hgrant, hdownloads, hsent, hprepared⟩ :=
    exists_of_prepare_eq_ok h
  refine ⟨b.asked m.network ++ (b.artifacts.take (written.length + 1)).flatMap
    (fun r => (r.exchange m b.client (b.broker provider)).sent), ?_, ?_⟩
  · rw [hsent, List.append_assoc]
  · intro q hq
    have hdir' : q.files.ensureDirectory m.workingDir b.config.bootstrap.configDir =
        (q.files, .ok ()) := by
      rw [hq]
      exact FileTree.ensureDirectory_again hdir hdownloads.keepsDirectories
    have hrepeated : Downloads m b.client (b.broker provider) q.files b.artifacts written none
        q.files := by
      rw [hq]
      exact hdownloads.repeated
    obtain ⟨result, after, hrun, hstages⟩ := b.stages m args env q
    rw [hrun]
    -- the directory is there and the provider answers as before, so the downloads decide
    cases hstages with
    | unusable hunusable =>
        rw [hdir'] at hunusable
        cases hunusable
    | refused _ hrefused =>
        rw [hgrant] at hrefused
        cases hrefused
    | provided hensured hprovided hdownloads' hsent' =>
        rw [hdir'] at hensured
        rw [hgrant] at hprovided
        cases hensured
        cases hprovided
        obtain ⟨rfl, rfl, hfiles⟩ := hrepeated.unique hdownloads'
        exact ⟨hprepared, hfiles.symm, by rw [hsent', List.append_assoc]⟩

/-! Two variables that name one file, on a machine whose network answers with the name of the host. -/

def collidingSample : Bootstrap where
  config := sampleConfig
  explicitHeader := none
  artifacts :=
    [⟨"http://h/", .ofText "/d/a.yaml", .config, "CONFIG_URL_A"⟩,
      ⟨"http://kk/", .ofText "/d/a.yaml", .config, "CONFIG_URL_a"⟩]
  client := sample.client

def echoMachine : Machine where
  network.reply _ r :=
    if r.url.hostText? = some "p" then sampleReply r.url
    else .answered ⟨200, [], Utf8.encode (r.url.hostText?.getD ""), .whole⟩
  workingDir := []

def afterCollision : Progress :=
  ((collidingSample.prepare echoMachine [] .empty).run { files := .empty }).2

/-- In both runs the first download overwrites and is overwritten. -/
theorem prepare_again_changes_nothing_sample :
    ((collidingSample.prepare echoMachine [] .empty).run { files := .empty }).1 =
        .ok ⟨[⟨.config, .ofText "/d/a.yaml", 1⟩, ⟨.config, .ofText "/d/a.yaml", 2⟩],
          ⟨"litellm", [], "PYTHONPATH", Utf8.encode "/d"⟩⟩ ∧
      afterCollision.files.read? [] (.ofText "/d/a.yaml") = some (Utf8.encode "kk") ∧
      ((collidingSample.prepare echoMachine [] .empty).run afterCollision).2.files =
        afterCollision.files ∧
      ((collidingSample.prepare echoMachine [] .empty).run afterCollision).2.sent =
        afterCollision.sent ++ afterCollision.sent := by
  have hfirst : ((collidingSample.prepare echoMachine [] .empty).run { files := .empty }).1 =
      .ok ⟨[⟨.config, .ofText "/d/a.yaml", 1⟩, ⟨.config, .ofText "/d/a.yaml", 2⟩],
        ⟨"litellm", [], "PYTHONPATH", Utf8.encode "/d"⟩⟩ := by
    decide +kernel
  obtain ⟨sent, hsent, hagain⟩ := prepare_again_changes_nothing hfirst
  obtain ⟨-, hfiles, hsent'⟩ := hagain afterCollision (by rw [afterCollision])
  have hall : afterCollision.sent = sent := by rw [afterCollision, hsent, List.nil_append]
  exact ⟨hfirst, by decide +kernel, hfiles, by rw [hsent', hall]⟩

end Bootstrap

end Prelaunch
