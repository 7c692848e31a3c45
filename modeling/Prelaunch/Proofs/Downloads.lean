import Prelaunch.Bootstrap
import Prelaunch.Proofs.ArtifactName
import Prelaunch.Proofs.Download

/-!
The downloads of a plan, one after the other. A run of them is a derivation of `Downloads`; what it
leaves in the tree follows from it by induction, with one write for each step.
-/

namespace Prelaunch

/-! Contents written in order. -/

namespace FileTree

variable {cwd : Location} {t t₁ t' : FileTree}

/-- The second tree is the first after contents were written to it in order: a path has the last of
those written to it, and nothing else is touched. -/
structure HasWritten (cwd : Location) (contents : List (Path × Bytes)) (t t' : FileTree) :
    Prop where
  keeps : KeepsDirectories t t'
  last : ∀ earlier path content later, contents = earlier ++ (path, content) :: later →
    (∀ w ∈ later, w.1 ≠ path) → t'.read? cwd path = some content
  frame : ∀ loc, (∀ w ∈ contents, t'.locate cwd w.1 ≠ .ok loc) → t'.entry? loc = t.entry? loc

namespace HasWritten

theorem nil (cwd : Location) (t : FileTree) : HasWritten cwd [] t t where
  keeps := .refl t
  last := by simp
  frame _ _ := rfl

/-- One more write before the others. Later writes to other children of the same directory go
elsewhere, so they do not touch what this one leaves. -/
theorem cons {dir path : Path} {content : Bytes} {rest : List (Path × Bytes)} {loc : Location}
    (hempty : dir.isEmpty = false) (hwalk : t.walk (start cwd dir) dir.names = .ok loc)
    (hpath : path.IsChildOf dir) (hrest : ∀ w ∈ rest, w.1.IsChildOf dir)
    (hwrite : t.write cwd path content = .ok t₁) (h : HasWritten cwd rest t₁ t') :
    HasWritten cwd ((path, content) :: rest) t t' := by
  obtain ⟨below, hbelow, hkeeps, hread, hframe⟩ :=
    write_spec (hpath.endsInSeparator hempty) hwrite
  have hkeeps' := hkeeps.trans h.keeps
  have hbelow₁ := hkeeps.locate hbelow
  have hbelow' := hkeeps'.locate hbelow
  refine ⟨hkeeps', ?_, ?_⟩
  · intro earlier path' content' later heq hlater
    cases earlier with
    | nil =>
        -- the write in question is this one: none of the later ones goes to the same place
        obtain ⟨⟨rfl, rfl⟩, rfl⟩ : (path = path' ∧ content = content') ∧ rest = later := by
          simpa using heq
        rw [← hread]
        refine read?_congr hbelow₁ hbelow' (h.frame below fun w hw hloc => hlater w hw ?_)
        exact eq_of_locate_eq hempty (hkeeps'.walk hwalk) (hrest w hw) hpath hloc hbelow'
    | cons first earlier =>
        obtain ⟨-, hrest'⟩ : (path, content) = first ∧
            rest = earlier ++ (path', content') :: later := by simpa using heq
        exact h.last earlier path' content' later hrest' hlater
  · intro other hother
    rw [h.frame other fun w hw => hother w (List.mem_cons_of_mem _ hw)]
    refine hframe other ?_
    rintro rfl
    exact hother _ List.mem_cons_self hbelow'

end HasWritten

end FileTree

/-! Runs of downloads. -/

variable {m : Machine} {client : Http.Client} {broker : Broker}

/-- What the download of a request comes to with the header that a broker chooses for it. -/
def ArtifactRequest.outcome (r : ArtifactRequest) (m : Machine) (client : Http.Client)
    (broker : Broker) (t : FileTree) : Except FetchError (Bytes × FileTree) :=
  Download.outcome m client r.url r.path (broker.choose r.url).header? t

/-- The requests and answers of one download. -/
def ArtifactRequest.exchange (r : ArtifactRequest) (m : Machine) (client : Http.Client)
    (broker : Broker) : Http.Exchange :=
  client.get m.network r.url (broker.choose r.url).header?.toList

/-- From a tree, the downloads of a plan bring some contents until one fails or none is left, and
lead to another tree. -/
inductive Downloads (m : Machine) (client : Http.Client) (broker : Broker) :
    FileTree → List ArtifactRequest → List (ArtifactRequest × Bytes) → Option FetchError →
      FileTree → Prop where
  | complete (t : FileTree) : Downloads m client broker t [] [] none t
  | fails {t r rest e} (h : r.outcome m client broker t = .error e) :
      Downloads m client broker t (r :: rest) [] (some e) t
  | next {t t₁ t' r body rest written failure} (h : r.outcome m client broker t = .ok (body, t₁))
      (hrest : Downloads m client broker t₁ rest written failure t') :
      Downloads m client broker t (r :: rest) ((r, body) :: written) failure t'

namespace Downloads

variable {t t' : FileTree} {plan : List ArtifactRequest}
  {written : List (ArtifactRequest × Bytes)} {failure : Option FetchError}

/-- The plan splits into what was written and what was not; a failure is that of the first request
not written, in the tree as it was left. -/
theorem split (h : Downloads m client broker t plan written failure t') :
    ∃ rest, plan = written.map (·.1) ++ rest ∧
      ((failure = none ∧ rest = []) ∨
        ∃ e r later, failure = some e ∧ rest = r :: later ∧
          r.outcome m client broker t' = .error e) := by
  induction h with
  | complete t => exact ⟨[], rfl, .inl ⟨rfl, rfl⟩⟩
  | fails h => exact ⟨_, rfl, .inr ⟨_, _, _, rfl, rfl, h⟩⟩
  | next h _ ih =>
      obtain ⟨rest, rfl, hrest⟩ := ih
      exact ⟨rest, rfl, hrest⟩

theorem arrival (h : Downloads m client broker t plan written failure t') :
    ∀ w ∈ written,
      Download.arrival m.network client w.1.url (broker.choose w.1.url).header? = .ok w.2 := by
  induction h with
  | complete t => simp
  | fails h => simp
  | next h _ ih =>
      intro w hw
      rcases List.mem_cons.1 hw with rfl | hw
      · exact (Download.outcome_eq_ok.1 h).1
      · exact ih w hw

theorem content (h : Downloads m client broker t plan written failure t') :
    ∀ w ∈ written, ∀ p, ((Download.content m client w.1.url
      (broker.choose w.1.url).header?).run p).1 = .ok w.2 := by
  intro w hw p
  obtain ⟨events, hcontent⟩ :=
    Download.run_content m client w.1.url (broker.choose w.1.url).header? p
  rw [hcontent]
  exact h.arrival w hw

theorem hasWritten {dir : Path} {loc : Location}
    (h : Downloads m client broker t plan written failure t') (hempty : dir.isEmpty = false)
    (hwalk : t.walk (FileTree.start m.workingDir dir) dir.names = .ok loc)
    (hplan : ∀ r ∈ plan, r.path.IsChildOf dir) :
    FileTree.HasWritten m.workingDir (written.map fun w => (w.1.path, w.2)) t t' := by
  induction h with
  | complete t => exact .nil _ t
  | fails h => exact .nil _ _
  | next h hrest ih =>
      have hwrite := (Download.outcome_eq_ok.1 h).2
      obtain ⟨-, -, hkeeps, -, -⟩ := FileTree.write_spec
        ((hplan _ List.mem_cons_self).endsInSeparator hempty) hwrite
      have hothers := fun r hr => hplan r (List.mem_cons_of_mem _ hr)
      refine .cons hempty hwalk (hplan _ List.mem_cons_self) ?_ hwrite
        (ih (hkeeps.walk hwalk) hothers)
      obtain ⟨rest, rfl, -⟩ := hrest.split
      intro w hw
      obtain ⟨w', hw', rfl⟩ := List.mem_map.1 hw
      exact hothers w'.1 (List.mem_append_left _ (List.mem_map_of_mem hw'))

end Downloads

/-! The loop over a plan. -/

/-- What is reported of a content that was written. -/
def FetchedArtifact.of (w : ArtifactRequest × Bytes) : FetchedArtifact :=
  ⟨w.1.kind, w.1.path, w.2.length⟩

namespace Bootstrap

variable (b : Bootstrap)

theorem run_fetchOne (m : Machine) (broker : Broker) (r : ArtifactRequest) (p : Progress) :
    ∃ events, (b.fetchOne m broker r).run p =
      match r.outcome m b.client broker p.files with
      | .ok (body, t) =>
        (.ok (.of (r, body)), ⟨t, p.sent ++ (r.exchange m b.client broker).sent, events⟩)
      | .error e =>
        (.error (.fetch e), ⟨p.files, p.sent ++ (r.exchange m b.client broker).sent, events⟩) := by
  unfold fetchOne ArtifactRequest.outcome ArtifactRequest.exchange
  dsimp only
  rw [Action.run_bind_of_ok (Action.run_tell _ _ _ p)]
  obtain ⟨events, hfetch⟩ := Download.run_fetch m b.client r.url r.path
    (broker.choose r.url).header? { p with events := p.events ++ [⟨.info, "Fetching artifact",
      [("kind", r.kind.label), ("variable", r.source), ("url", r.url), ("path", r.path.display),
        ("auth", (broker.choose r.url).label)]⟩] }
  refine ⟨events, ?_⟩
  rw [Action.run_bind, Action.run_within, hfetch]
  rcases Download.outcome m b.client r.url r.path (broker.choose r.url).header? p.files with
    e | ⟨body, t⟩ <;> rfl

/-- The loop sends the requests of every download up to and including the one that fails. -/
theorem run_downloads (m : Machine) (broker : Broker) (plan : List ArtifactRequest)
    (p : Progress) :
    ∃ written failure q, Downloads m b.client broker p.files plan written failure q.files ∧
      q.sent = p.sent ++ (plan.take (written.length + 1)).flatMap
        (fun r => (r.exchange m b.client broker).sent) ∧
      (plan.mapM (b.fetchOne m broker)).run p =
        (match failure with
          | none => .ok (written.map .of)
          | some e => .error (.fetch e), q) := by
  induction plan generalizing p with
  | nil => exact ⟨[], none, p, .complete _, by simp, by simp⟩
  | cons r rest ih =>
      obtain ⟨events, hone⟩ := b.run_fetchOne m broker r p
      rw [List.mapM_cons, Action.run_bind, hone]
      cases houtcome : r.outcome m b.client broker p.files with
      | error e =>
          refine ⟨[], some e, ⟨p.files, p.sent ++ (r.exchange m b.client broker).sent, events⟩,
            .fails houtcome, ?_, rfl⟩
          simp
      | ok result =>
          obtain ⟨body, t⟩ := result
          obtain ⟨written, failure, q, hrest, hsent, hrun⟩ :=
            ih ⟨t, p.sent ++ (r.exchange m b.client broker).sent, events⟩
          refine ⟨(r, body) :: written, failure, q, .next houtcome hrest, ?_, ?_⟩
          · simp [hsent]
          · dsimp only
            rw [Action.run_bind, hrun]
            cases failure <;> rfl

end Bootstrap

end Prelaunch
