import Prelaunch.Download
import Prelaunch.Proofs.Action
import Prelaunch.Proofs.Directories

/-!
What one download comes to. Its outcome is a function of the network, the URL, the header and the
tree; the requests it sends do not depend on the tree, and a failed one leaves the tree alone.
-/

namespace Prelaunch

namespace Download

/-- What comes from a URL: its whole content, or the reason why there is none. -/
def arrival (net : Http.Network) (client : Http.Client) (url : String) (header : Option Header) :
    Except FetchError Bytes :=
  match (client.get net url header.toList).outcome with
  | .error cause => .error (.ofFailure url cause)
  | .ok response =>
    if response.isSuccess then
      match response.read with
      | .ok body => .ok body
      | .error cause => .error (.ofFailure url cause)
    else .error (.status url response.status)

/-- The content that a download brings to a tree, and the tree that has it. -/
def outcome (m : Machine) (client : Http.Client) (url : String) (path : Path)
    (header : Option Header) (t : FileTree) : Except FetchError (Bytes × FileTree) :=
  match arrival m.network client url header with
  | .error e => .error e
  | .ok body =>
    match t.write m.workingDir path body with
    | .ok t' => .ok (body, t')
    | .error cause => .error (.write url path cause)

variable {m : Machine} {client : Http.Client} {url : String} {path : Path}
  {header : Option Header} {t t' : FileTree}

theorem outcome_eq_ok {body : Bytes} :
    outcome m client url path header t = .ok (body, t') ↔
      arrival m.network client url header = .ok body ∧
        t.write m.workingDir path body = .ok t' := by
  unfold outcome
  cases arrival m.network client url header with
  | error e => simp
  | ok arrived =>
      cases hwrite : t.write m.workingDir path arrived with
      | error cause =>
          refine ⟨fun h => by simp [hwrite] at h, ?_⟩
          rintro ⟨⟨⟩, h⟩
          simp [hwrite] at h
      | ok written =>
          simp only [hwrite, Except.ok.injEq, Prod.mk.injEq]
          refine and_congr_right fun hbody => ?_
          rw [← hbody, hwrite, Except.ok.injEq]

theorem run_content (m : Machine) (client : Http.Client) (url : String) (header : Option Header)
    (p : Progress) :
    ∃ events, (content m client url header).run p =
      (arrival m.network client url header,
        { p with sent := p.sent ++ (client.get m.network url header.toList).sent, events }) := by
  unfold content
  rw [Action.run_bind_of_ok (Action.run_tell _ _ _ p)]
  refine ⟨p.events ++ [⟨.debug, "Starting download", [("url", url)]⟩], ?_⟩
  rw [Action.run_bind, Action.run_within, Action.run_request]
  unfold arrival
  rcases (client.get m.network url header.toList).outcome with cause | response
  · rfl
  · cases hsuccess : response.isSuccess with
    | false => simp [hsuccess]
    | true => cases hread : response.read <;> simp [hsuccess, hread]

theorem run_fetch (m : Machine) (client : Http.Client) (url : String) (path : Path)
    (header : Option Header) (p : Progress) :
    ∃ events, (fetch m client url path header).run p =
      match outcome m client url path header p.files with
      | .ok (body, t) =>
        (.ok body.length, ⟨t, p.sent ++ (client.get m.network url header.toList).sent, events⟩)
      | .error e =>
        (.error e, ⟨p.files, p.sent ++ (client.get m.network url header.toList).sent, events⟩) := by
  obtain ⟨events, hcontent⟩ := run_content m client url header p
  unfold fetch outcome
  rw [Action.run_bind, hcontent]
  cases arrival m.network client url header with
  | error e => exact ⟨events, rfl⟩
  | ok body =>
      dsimp only
      rw [Action.run_bind_of_ok (Action.run_files _)]
      cases p.files.write m.workingDir path body with
      | error cause => exact ⟨events, rfl⟩
      | ok t =>
          refine ⟨events ++ [⟨.debug, "Download completed",
            [("url", url), ("path", path.display), ("size", Nat.repr body.length)]⟩], ?_⟩
          simp only [Action.run_bind, Action.run_orFail_ok, Action.run_setFiles, Action.run_tell,
            Action.run_pure]

end Download

end Prelaunch
