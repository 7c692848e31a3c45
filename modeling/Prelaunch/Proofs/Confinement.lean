import Prelaunch.Proofs.Authentication

/-!
Where the secrets of the storage account may go. The key pair and the token are on the requests of
the chains they are attached to, as long as these stay where they began, and on no other request.
-/

namespace Prelaunch.Bootstrap

open Http.Client (CarriesAt StaysAt)

variable (b : Bootstrap) {net : Http.Network} {h : Header} {j : Nat}

theorem ne_defaultHeaders_of_authorization (c : Http.Client) (hname : h.name = "authorization") :
    ∀ d ∈ c.defaultHeaders, h.name ≠ d.name := by
  simp [Http.Client.defaultHeaders, hname]

/-- The chain of the provider's that has nothing attached to it and is sent around in the same
way. -/
def askedBare (net : Http.Network) : List Http.Request :=
  b.config.account.credentials?.elim [] fun (keyId, applicationKey) =>
    b.client.beside net b.config.account.authUrl [Grant.proof keyId applicationKey] []

/-- The header shows the key pair, and up to a place the provider's chain stays at the authorize
URL. -/
def ShowsKeysAt (net : Http.Network) (h : Header) (j : Nat) : Prop :=
  ∃ keyId applicationKey,
    b.config.account.credentials? = some (keyId, applicationKey) ∧
    h = Http.basicHeader (Utf8.encode keyId) (Utf8.encode applicationKey) ∧
    j < (b.asked net).length ∧
    ∃ u, Url.parse b.config.account.authUrl = .ok u ∧ StaysAt u (b.asked net) j

theorem showsKeysAt_of_carriesAt (hdrops : net.DropsForGood "authorization")
    (hcarries : CarriesAt h (b.asked net) (b.askedBare net) j) : b.ShowsKeysAt net h j := by
  unfold ShowsKeysAt
  have hlt := hcarries.lt_length
  unfold askedBare at hcarries
  cases hkeys : b.config.account.credentials? with
  | none =>
      rw [b.asked_of_credentials_none hkeys] at hcarries
      exact absurd hcarries Http.Client.not_carriesAt_nil
  | some keys =>
      obtain ⟨keyId, applicationKey⟩ := keys
      rw [hkeys, b.asked_of_credentials_some hkeys] at hcarries
      rw [b.asked_of_credentials_some hkeys] at hlt ⊢
      obtain rfl := List.mem_singleton.1 (Http.Client.mem_of_carriesAt hcarries)
      exact ⟨keyId, applicationKey, rfl, rfl, hlt,
        Http.Client.exists_staysAt_of_carriesAt hdrops hcarries⟩

theorem carriesAt_of_showsKeysAt (hkeeps : net.KeepsAtHost "authorization")
    (hshows : b.ShowsKeysAt net h j) : CarriesAt h (b.asked net) (b.askedBare net) j := by
  obtain ⟨keyId, applicationKey, hkeys, rfl, hj, u, hurl, hstays⟩ := hshows
  unfold askedBare
  rw [hkeys]
  rw [b.asked_of_credentials_some hkeys] at hj hstays ⊢
  exact Http.Client.carriesAt_sent_get hkeeps (by simp [Http.basicHeader])
    (ne_defaultHeaders_of_authorization b.client rfl) hurl hj hstays

/-- The chain of a download as it would be with the header of another broker, or with nothing
attached, and sent around in the same way. -/
def exchangeBeside (m : Machine) (broker : Broker) (r : ArtifactRequest)
    (header : Option Header) : List Http.Request :=
  b.client.beside m.network r.url (broker.choose r.url).header?.toList header.toList

/-- The broker chose the provider's scheme, and up to a place the chain of the download stays at its
URL. -/
def ShowsTokenAt (m : Machine) (scheme : ProviderScheme) (r : ArtifactRequest) (j : Nat) : Prop :=
  (b.broker (some scheme)).choose r.url = .provider scheme ∧
    j < (r.exchange m b.client (b.broker (some scheme))).sent.length ∧
    ∃ u, Url.parse r.url = .ok u ∧
      StaysAt u (r.exchange m b.client (b.broker (some scheme))).sent j

variable {m : Machine} {scheme : ProviderScheme} {r : ArtifactRequest}

theorem showsTokenAt_of_carriesAt (hdrops : m.network.DropsForGood "authorization")
    (hname : scheme.header.name = "authorization")
    (hcarries : CarriesAt scheme.header (r.exchange m b.client (b.broker (some scheme))).sent
      (b.exchangeBeside m (b.broker (some scheme)) r ((b.broker none).choose r.url).header?) j) :
    b.ShowsTokenAt m scheme r j := by
  have hlt := hcarries.lt_length
  unfold ShowsTokenAt
  unfold ArtifactRequest.exchange exchangeBeside at *
  obtain ⟨hchoose, hnone⟩ | ⟨hchoose, hne⟩ := Broker.choose_cases b.explicitHeader scheme r.url
  · rw [hchoose, hnone] at hcarries
    rw [hchoose] at hlt ⊢
    exact ⟨rfl, hlt, Http.Client.exists_staysAt_of_carriesAt (hname ▸ hdrops) hcarries⟩
  · -- the header that was chosen would be attached without the scheme as well
    rw [hchoose, Http.Client.sent_get] at hcarries
    exact absurd hcarries Http.Client.not_carriesAt_self

theorem carriesAt_of_showsTokenAt (hkeeps : m.network.KeepsAtHost "authorization")
    (hname : scheme.header.name = "authorization") (hshows : b.ShowsTokenAt m scheme r j) :
    CarriesAt scheme.header (r.exchange m b.client (b.broker (some scheme))).sent
      (b.exchangeBeside m (b.broker (some scheme)) r ((b.broker none).choose r.url).header?) j := by
  obtain ⟨hchosen, hj, u, hurl, hstays⟩ := hshows
  unfold ArtifactRequest.exchange exchangeBeside at *
  obtain ⟨hchoose, hnone⟩ | ⟨hchoose, hne⟩ := Broker.choose_cases b.explicitHeader scheme r.url
  · rw [hnone]
    rw [hchoose] at hj hstays ⊢
    exact Http.Client.carriesAt_sent_get (hname ▸ hkeeps) (by simp [hname])
      (ne_defaultHeaders_of_authorization b.client hname) hurl hj hstays
  · rw [hchoose] at hchosen
    exact absurd hchosen (hne scheme)

/-- Let the client drop what proves who asks for good once a redirect leaves the host. Whatever the
network answers, and wherever it redirects, a request of the provider's chain has the key pair only
as long as the chain stays at the host and port of the authorize URL; a request of a download's chain
has the token only if the broker chose it for that URL and as long as the chain stays at the URL's
host and port; and no request has a header that was attached to another chain. If the client keeps
such a header at the host, these requests do have it. A request has a header if it has it more often
than in the same chain with nothing attached. -/
theorem prepare_confines_secrets (m : Machine) (hdrops : m.network.DropsForGood "authorization")
    (args : List Bytes) (env : Environment) (p : Progress) :
    ∃ (authorization : List Http.Request) (provider : Option ProviderScheme)
      (attempted : List ArtifactRequest),
      ((b.prepare m args env).run p).2.sent = p.sent ++ authorization ++
        attempted.flatMap (fun r => (r.exchange m b.client (b.broker provider)).sent) ∧
      Reached b.artifacts ((b.prepare m args env).run p).1 attempted ∧
      (attempted ≠ [] → ∃ answer, b.Provides m answer provider) ∧
      (authorization = b.asked m.network ∨ authorization = [] ∧ attempted = []) ∧
      (∀ h j, (CarriesAt h authorization (b.askedBare m.network) j → b.ShowsKeysAt m.network h j) ∧
        (m.network.KeepsAtHost "authorization" → j < authorization.length →
          b.ShowsKeysAt m.network h j → CarriesAt h authorization (b.askedBare m.network) j)) ∧
      (∀ scheme, provider = some scheme → ∃ keyId applicationKey grant,
        b.config.account.credentials? = some (keyId, applicationKey) ∧
        (∀ s, ((authorize m b.client b.config.account.authUrl keyId applicationKey).run s).1 =
          .ok grant) ∧
        scheme.header = grant.tokenHeader) ∧
      ∀ r ∈ attempted,
        (r.exchange m b.client (b.broker provider)).sent.map (·.url) =
          (b.exchangeBeside m (b.broker provider) r none).map (·.url) ∧
        (∀ h j, CarriesAt h (r.exchange m b.client (b.broker provider)).sent
            (b.exchangeBeside m (b.broker provider) r none) j →
          ((b.broker provider).choose r.url).header? = some h) ∧
        ∀ scheme, provider = some scheme → ∀ j,
          let carries := CarriesAt scheme.header
            (r.exchange m b.client (b.broker provider)).sent
            (b.exchangeBeside m (b.broker provider) r ((b.broker none).choose r.url).header?) j
          (carries → b.ShowsTokenAt m scheme r j) ∧
            (m.network.KeepsAtHost "authorization" → b.ShowsTokenAt m scheme r j → carries) := by
  have hasked (h : Header) (j : Nat) :
      (CarriesAt h (b.asked m.network) (b.askedBare m.network) j → b.ShowsKeysAt m.network h j) ∧
        (m.network.KeepsAtHost "authorization" → j < (b.asked m.network).length →
          b.ShowsKeysAt m.network h j →
            CarriesAt h (b.asked m.network) (b.askedBare m.network) j) :=
    ⟨b.showsKeysAt_of_carriesAt hdrops, fun hkeeps _ => b.carriesAt_of_showsKeysAt hkeeps⟩
  obtain ⟨result, after, hrun, hstages⟩ := b.stages m args env p
  rw [hrun]
  cases hstages with
  | unusable =>
      refine ⟨[], none, [], by simp, .unusable, by simp, .inr ⟨rfl, rfl⟩,
        fun h j => ⟨?_, by simp⟩, nofun, by simp⟩
      exact fun hcarries => absurd hcarries Http.Client.not_carriesAt_nil
  | refused hensured hrefused =>
      exact ⟨b.asked m.network, none, [], by simp, .refused, by simp, .inl rfl, hasked, nofun,
        by simp⟩
  | @provided t provider written failure after hensured hprovided hdownloads hsent =>
      obtain ⟨answer, hprovides⟩ := provides_of_provided hprovided
      refine ⟨b.asked m.network, provider, b.artifacts.take (written.length + 1), hsent,
        reached_conclusion hdownloads args env, fun _ => ⟨answer, hprovides⟩, .inl rfl, hasked,
        ?_, ?_⟩
      · rintro scheme rfl
        cases hprovides with
        | @granted keyId applicationKey grant _ hkeys hgrant hscheme =>
            exact ⟨keyId, applicationKey, grant, hkeys,
              fun s => (authorize_result ..).trans hgrant, (Grant.scheme_eq_ok hscheme).1⟩
      · intro r _
        refine ⟨Http.Client.map_url_beside .., ?_, ?_⟩
        · intro h j hcarries
          simpa using Http.Client.mem_of_carriesAt hcarries
        · rintro scheme rfl j
          cases hprovides with
          | granted _ _ hscheme =>
              have hname : scheme.header.name = "authorization" := by
                rw [(Grant.scheme_eq_ok hscheme).1]
                rfl
              exact ⟨b.showsTokenAt_of_carriesAt hdrops hname,
                fun hkeeps => b.carriesAt_of_showsTokenAt hkeeps hname⟩

/-! A network that grants a token for its downloads and sends these to another host. -/

def relocatingMachine : Machine where
  network := {
    reply := fun _ r =>
      if r.url.hostText? = some "h" then
        .answered ⟨302, [("Location", Utf8.encode "http://g/a")], [], .whole⟩
      else sampleReply r.url
    carries := Http.carriesForGood }
  workingDir := []

abbrev relocatedChain (r : ArtifactRequest) : List Http.Request :=
  (r.exchange relocatingMachine sample.client (sample.broker (some sampleScheme))).sent

/-- The first request of each download has the token, and the second one, to the other host, does
not. -/
theorem prepare_confines_secrets_sample :
    relocatingMachine.network.DropsForGood "authorization" ∧
      relocatingMachine.network.KeepsAtHost "authorization" ∧
      ((sample.prepare relocatingMachine [] .empty).run { files := .empty }).2.sent =
        sample.asked relocatingMachine.network ++ samplePlan.flatMap relocatedChain ∧
      ∀ r ∈ samplePlan, (relocatedChain r).map (·.url.hostText?) = [some "h", some "g"] ∧
        CarriesAt sampleScheme.header (relocatedChain r)
          (sample.exchangeBeside relocatingMachine (sample.broker (some sampleScheme)) r none) 0 ∧
        ¬ CarriesAt sampleScheme.header (relocatedChain r)
          (sample.exchangeBeside relocatingMachine (sample.broker (some sampleScheme)) r none) 1 := by
  have hdrops : relocatingMachine.network.DropsForGood "authorization" :=
    Http.Client.dropsForGood_of_guarded rfl rfl
  have hkeeps : relocatingMachine.network.KeepsAtHost "authorization" :=
    Http.Client.keepsAtHost_of_not_payload rfl rfl
  obtain ⟨authorization, provider, attempted, hsent, hreached, hprovides, hauthorization, -, -,
    htokens⟩ := sample.prepare_confines_secrets relocatingMachine hdrops [] .empty
      { files := .empty }
  have hresult : ((sample.prepare relocatingMachine [] .empty).run { files := .empty }).1 =
      .ok ⟨[⟨.config, .ofText "/d/a.yaml", 4⟩, ⟨.handler, .ofText "/d/b_handler.py", 4⟩],
        ⟨"litellm", [], "PYTHONPATH", Utf8.encode "/d"⟩⟩ := by
    decide +kernel
  rw [hresult] at hreached
  obtain rfl : attempted = samplePlan := hreached.of_ok
  have hasked : authorization = sample.asked relocatingMachine.network := by
    obtain hasked | ⟨-, hnone⟩ := hauthorization
    · exact hasked
    · cases hnone
  obtain ⟨answer, hanswer⟩ := hprovides (by decide)
  obtain rfl : provider = some sampleScheme := by
    have hprovided : sample.provided relocatingMachine = .ok (some sampleScheme) := by
      decide +kernel
    exact Except.ok.inj (hanswer.provided.symm.trans hprovided)
  refine ⟨hdrops, hkeeps, by simpa only [hasked, List.nil_append] using hsent, fun r hr => ?_⟩
  have hhosts : (relocatedChain r).map (·.url.hostText?) = [some "h", some "g"] := by
    revert r
    decide +kernel
  have hstart : (Url.parse r.url).toOption.map (·.hostText?) = some (some "h") := by
    clear hhosts
    revert r
    decide +kernel
  refine ⟨hhosts, ?_, fun hcarries => ?_⟩
  · have hchosen : (sample.broker (some sampleScheme)).choose r.url = .provider sampleScheme := by
      clear hhosts hstart
      revert r
      decide +kernel
    have hlength : 0 < (relocatedChain r).length := by
      rw [← List.length_map, hhosts]
      decide
    cases hurl : Url.parse r.url with
    | error e =>
        rw [hurl] at hstart
        cases hstart
    | ok u =>
        exact ((htokens r hr).2.2 sampleScheme rfl 0).2 hkeeps
          ⟨hchosen, hlength, u, hurl, Http.Client.staysAt_zero_sent_get hurl⟩
  · obtain ⟨-, -, u, hurl, hstays⟩ := ((htokens r hr).2.2 sampleScheme rfl 1).1 hcarries
    exact Http.Client.not_staysAt_of_hosts hstart hhosts (by decide) hurl hstays

end Prelaunch.Bootstrap
