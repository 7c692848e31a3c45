import Prelaunch.Account
import Prelaunch.Proofs.Action

/-!
What asking for a grant comes to. The outcome is a function of the network and the key pair, one
exchange is all that is sent, and the files are left alone.
-/

namespace Prelaunch

variable (m : Machine) (client : Http.Client) (url keyId applicationKey : String)

/-- The header that proves who holds a key pair. -/
def Grant.proof : Header :=
  Http.basicHeader (Utf8.encode keyId) (Utf8.encode applicationKey)

/-- The requests and answers by which a grant is asked for. -/
def Grant.exchange (net : Http.Network) : Http.Exchange :=
  client.get net url [Grant.proof keyId applicationKey]

/-- What the provider answers. -/
def Grant.obtained : Except AuthorizationError Grant :=
  match (Grant.exchange client url keyId applicationKey m.network).outcome with
  | .error cause => .error (.request url cause)
  | .ok response =>
    if response.isSuccess then
      match response.read with
      | .ok body => Grant.read m.answerComplaint url body
      | .error cause => .error (.request url cause)
    else .error (.status url response.status)

theorem run_authorize (p : Progress) :
    ∃ events, (authorize m client url keyId applicationKey).run p =
      (Grant.obtained m client url keyId applicationKey,
        { p with
          sent := p.sent ++ (Grant.exchange client url keyId applicationKey m.network).sent
          events }) := by
  unfold authorize
  rw [Action.run_bind_of_ok (Action.run_tell _ _ _ p)]
  dsimp only
  rw [Action.run_bind, Action.run_within, Action.run_request]
  unfold Grant.obtained Grant.exchange Grant.proof
  rcases (client.get m.network url
    [Http.basicHeader (Utf8.encode keyId) (Utf8.encode applicationKey)]).outcome with
    cause | response
  · exact ⟨_, rfl⟩
  · cases hsuccess : response.isSuccess with
    | false => exact ⟨_, by simp [hsuccess]; rfl⟩
    | true =>
        cases hread : response.read with
        | error cause => exact ⟨_, by simp [hsuccess, hread, Action.run_bind]; rfl⟩
        | ok body =>
            cases hgrant : Grant.read m.answerComplaint url body with
            | error e => exact ⟨_, by simp [hsuccess, hread, hgrant, Action.run_bind]; rfl⟩
            | ok grant => exact ⟨_, by simp [hsuccess, hread, hgrant, Action.run_bind]; rfl⟩

theorem authorize_result (p : Progress) :
    ((authorize m client url keyId applicationKey).run p).1 =
      Grant.obtained m client url keyId applicationKey := by
  obtain ⟨events, hrun⟩ := run_authorize m client url keyId applicationKey p
  rw [hrun]

end Prelaunch
