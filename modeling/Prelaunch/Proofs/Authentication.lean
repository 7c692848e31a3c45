import Mathlib.Control.Monad.Basic
import Prelaunch.Proofs.Construction
import Prelaunch.Proofs.Credential
import Prelaunch.Proofs.Delivery
import Prelaunch.Proofs.Preparation

/-!
What proves to each host who is asking: the key pair to the provider, once and before anything else,
and then to each download the operator's own header, or the provider's token, or nothing.
-/

namespace Prelaunch

/-- The headers that the settings and the provider's answer call for at a URL. -/
inductive Config.Attaches (c : Config) (answer : Option Grant) (url : String) :
    List Header → Prop where
  | own {raw h} (hset : c.authHeader = some raw) (hparse : Header.parse raw = .ok h) :
      Attaches c answer url [h]
  | token {g} (hunset : c.authHeader = none) (hanswer : answer = some g) (hcovers : g.Covers url) :
      Attaches c answer url [g.tokenHeader]
  | nothing (hunset : c.authHeader = none) (hcovers : ∀ g, answer = some g → ¬ g.Covers url) :
      Attaches c answer url []

namespace Bootstrap

variable {b : Bootstrap} {m : Machine} {answer : Option Grant}
  {provider : Option ProviderScheme}

/-- The provider is not asked without keys. If it is, it gives a grant and the grant a scheme. -/
inductive Provides (b : Bootstrap) (m : Machine) :
    Option Grant → Option ProviderScheme → Prop where
  | unasked (hkeys : b.config.account.credentials? = none) : Provides b m none none
  | granted {keyId applicationKey grant scheme}
      (hkeys : b.config.account.credentials? = some (keyId, applicationKey))
      (hgrant : Grant.obtained m b.client b.config.account.authUrl keyId applicationKey =
        .ok grant)
      (hscheme : grant.scheme = .ok scheme) : Provides b m (some grant) (some scheme)

theorem provides_of_provided (h : b.provided m = .ok provider) :
    ∃ answer, b.Provides m answer provider := by
  unfold provided at h
  cases hkeys : b.config.account.credentials? with
  | none =>
      rw [hkeys] at h
      obtain rfl := Except.ok.inj h
      exact ⟨none, .unasked hkeys⟩
  | some keys =>
      obtain ⟨keyId, applicationKey⟩ := keys
      simp only [hkeys, grantedScheme] at h
      cases hgrant : Grant.obtained m b.client b.config.account.authUrl keyId applicationKey with
      | error e =>
          rw [hgrant] at h
          cases h
      | ok grant =>
          simp only [hgrant] at h
          cases hscheme : grant.scheme with
          | error e =>
              rw [hscheme] at h
              cases h
          | ok scheme =>
              rw [hscheme] at h
              obtain rfl := Except.ok.inj h
              exact ⟨some grant, .granted hkeys hgrant hscheme⟩

theorem Provides.provided (h : b.Provides m answer provider) : b.provided m = .ok provider := by
  unfold Bootstrap.provided
  cases h with
  | unasked hkeys => rw [hkeys]
  | granted hkeys hgrant hscheme =>
      rw [hkeys]
      simp only [grantedScheme, hgrant, hscheme]
      rfl

theorem Provides.of_credentials_none (h : b.Provides m answer provider)
    (hkeys : b.config.account.credentials? = none) : answer = none := by
  cases h with
  | unasked => rfl
  | granted hkeys' =>
      rw [hkeys] at hkeys'
      cases hkeys'

theorem Provides.of_credentials_some {keyId applicationKey : String}
    (h : b.Provides m answer provider)
    (hkeys : b.config.account.credentials? = some (keyId, applicationKey)) :
    ∃ grant, answer = some grant ∧
      Grant.obtained m b.client b.config.account.authUrl keyId applicationKey = .ok grant := by
  cases h with
  | unasked hkeys' =>
      rw [hkeys] at hkeys'
      cases hkeys'
  | @granted _ _ grant _ hkeys' hgrant =>
      obtain ⟨rfl, rfl⟩ := Prod.mk.inj (Option.some.inj (hkeys.symm.trans hkeys'))
      exact ⟨grant, rfl, hgrant⟩

/-- What the broker chooses is what the settings and the answer call for. -/
theorem attaches_choose (hheader : b.config.explicitHeader = .ok b.explicitHeader)
    (hprovides : b.Provides m answer provider) (url : String) :
    b.config.Attaches answer url ((b.broker provider).choose url).header?.toList := by
  obtain ⟨hunset, hnone⟩ | ⟨raw, h, hset, hparse, hsome⟩ := Config.explicitHeader_eq_ok.1 hheader
  · unfold Broker.choose broker
    rw [hnone]
    cases hprovides with
    | unasked => exact .nothing hunset (by simp)
    | @granted _ _ grant scheme _ _ hscheme =>
        obtain ⟨htoken, hcovers⟩ := Grant.scheme_eq_ok hscheme
        cases happlies : scheme.appliesTo url with
        | true =>
            simpa [happlies, AuthChoice.header?, htoken] using
              Config.Attaches.token hunset rfl ((hcovers url).1 happlies)
        | false =>
            simp only [happlies, Bool.false_eq_true, if_false]
            refine .nothing hunset ?_
            rintro g ⟨⟩ hcovered
            rw [(hcovers url).2 hcovered] at happlies
            cases happlies
  · -- an own header hides the scheme, whatever it applies to
    unfold Broker.choose broker
    rw [hsome]
    exact .own hset hparse

/-- The downloads of a plan that a preparation reaches, by how it ends: none without a directory or
if the provider grants nothing, those up to the one that fails, and otherwise all. -/
inductive Reached (plan : List ArtifactRequest) :
    Except BootstrapError Prepared → List ArtifactRequest → Prop where
  | unusable {dir e} : Reached plan (.error (.workingDirectory dir e)) []
  | refused {e} : Reached plan (.error (.authorization e)) []
  | stopped {e before r after} (hplan : plan = before ++ r :: after) (hurl : e.url = r.url) :
      Reached plan (.error (.fetch e)) (before ++ [r])
  | unlaunched {e} : Reached plan (.error (.launch e)) plan
  | prepared {done} : Reached plan (.ok done) plan

theorem Reached.of_fetch {plan reached : List ArtifactRequest} {e : FetchError}
    (h : Reached plan (.error (.fetch e)) reached) :
    ∃ before r after, plan = before ++ r :: after ∧ e.url = r.url ∧ reached = before ++ [r] := by
  cases h with
  | stopped hplan hurl => exact ⟨_, _, _, hplan, hurl, rfl⟩

theorem Reached.of_ok {plan reached : List ArtifactRequest} {done : Prepared}
    (h : Reached plan (.ok done) reached) : reached = plan := by
  cases h
  rfl

theorem reached_conclusion {broker : Broker} {t t' : FileTree} {plan : List ArtifactRequest}
    {written : List (ArtifactRequest × Bytes)} {failure : Option FetchError}
    (h : Downloads m b.client broker t plan written failure t') (args : List Bytes)
    (env : Environment) :
    Reached plan (b.conclusion args env written failure) (plan.take (written.length + 1)) := by
  obtain ⟨rest, rfl, ⟨rfl, rfl⟩ | ⟨e, r, later, rfl, rfl, hfails⟩⟩ := h.split
  · have hall : (written.map Prod.fst ++ []).take (written.length + 1) = written.map Prod.fst ++ [] :=
      List.take_of_length_le (by simp)
    rw [hall]
    unfold conclusion
    cases Launch.make b.config.bootstrap args env with
    | ok launch => exact .prepared
    | error e => exact .unlaunched
  · have hreached : (written.map Prod.fst ++ r :: later).take (written.length + 1) =
        written.map Prod.fst ++ [r] := by
      simp [List.take_append, List.take_of_length_le]
    rw [hreached]
    exact .stopped rfl (Download.url_of_outcome_eq_error hfails)

/-- Once there is a working directory, the provider is asked exactly if there are keys, once and
with these keys, before any download. The downloads that the result calls for are then reached, and
each of them begins with the operator's own header if it is set, with the token if it is not and the
token is for the URL, and with neither otherwise. -/
theorem prepare_authenticates {c : Config} {env₀ : Environment} {start : Progress}
    (hmake : ((make c env₀).run start).1 = .ok b) {m : Machine} {p : Progress} {ensured : FileTree}
    (hdir : p.files.ensureDirectory m.workingDir b.config.bootstrap.configDir = (ensured, .ok ()))
    (args : List Bytes) (env : Environment) :
    ∃ (authorization : List Http.Request) (answer : Option Grant)
      (attempted : List ArtifactRequest) (attached : String → List Header),
      ((b.prepare m args env).run p).2.sent = p.sent ++ authorization ++
        attempted.flatMap (fun r => (b.client.get m.network r.url (attached r.url)).sent) ∧
      Reached b.artifacts ((b.prepare m args env).run p).1 attempted ∧
      (c.account.credentials? = none → authorization = [] ∧ answer = none) ∧
      (∀ keyId applicationKey, c.account.credentials? = some (keyId, applicationKey) →
        authorization = (b.client.get m.network c.account.authUrl
          [Http.basicHeader (Utf8.encode keyId) (Utf8.encode applicationKey)]).sent ∧
        (∀ first ∈ authorization.head?,
          Http.basicHeader (Utf8.encode keyId) (Utf8.encode applicationKey) ∈ first.headers) ∧
        (attempted ≠ [] → ∃ grant, answer = some grant ∧
          ∀ s, ((authorize m b.client c.account.authUrl keyId applicationKey).run s).1 =
            .ok grant)) ∧
      ∀ r ∈ attempted, c.Attaches answer r.url (attached r.url) ∧
        ∀ first ∈ (b.client.get m.network r.url (attached r.url)).sent.head?,
          ∃ u, Url.parse r.url = .ok u ∧
            first.headers =
              (b.client.defaultHeaders.filter fun d => !(attached r.url).any (·.name == d.name)) ++
                (Http.Client.userInfoHeader? u).toList ++ attached r.url := by
  have hbuilt := isBuilt_of_make hmake
  obtain rfl := hbuilt.config
  have hfirst (keyId applicationKey : String) : ∀ first ∈ (b.client.get m.network
      b.config.account.authUrl [Http.basicHeader (Utf8.encode keyId)
        (Utf8.encode applicationKey)]).sent.head?,
      Http.basicHeader (Utf8.encode keyId) (Utf8.encode applicationKey) ∈ first.headers :=
    fun first hhead => Http.Client.mem_headers_of_head? (List.mem_singleton_self _) hhead
  obtain ⟨result, after, hrun, hstages⟩ := b.stages m args env p
  rw [hrun]
  cases hstages with
  | unusable hunusable =>
      rw [hdir] at hunusable
      cases hunusable
  | refused hensured hrefused =>
      refine ⟨b.asked m.network, none, [], fun _ => [], by simp, .refused, ?_, ?_, by simp⟩
      · intro hkeys
        exact ⟨b.asked_of_credentials_none hkeys, rfl⟩
      · intro keyId applicationKey hkeys
        rw [b.asked_of_credentials_some hkeys]
        exact ⟨rfl, hfirst keyId applicationKey, fun hne => absurd rfl hne⟩
  | @provided t provider written failure after hensured hprovided hdownloads hsent =>
      obtain ⟨answer, hprovides⟩ := provides_of_provided hprovided
      refine ⟨b.asked m.network, answer, b.artifacts.take (written.length + 1),
        fun url => ((b.broker provider).choose url).header?.toList, hsent,
        reached_conclusion hdownloads args env, ?_, ?_, ?_⟩
      · intro hkeys
        exact ⟨b.asked_of_credentials_none hkeys, hprovides.of_credentials_none hkeys⟩
      · intro keyId applicationKey hkeys
        rw [b.asked_of_credentials_some hkeys]
        refine ⟨rfl, hfirst keyId applicationKey, fun _ => ?_⟩
        obtain ⟨grant, hanswer, hgrant⟩ := hprovides.of_credentials_some hkeys
        exact ⟨grant, hanswer, fun s => (authorize_result ..).trans hgrant⟩
      · intro r _
        refine ⟨attaches_choose hbuilt.header hprovides r.url, ?_⟩
        intro first hhead
        obtain ⟨u, hurl, rfl⟩ := Http.Client.head?_sent_get hhead
        exact ⟨u, hurl, rfl⟩

theorem prepare_authenticates_sample :
    ∃ attached : String → List Header,
      ((sample.prepare sampleMachine [] .empty).run { files := .empty }).2.sent =
        (sample.client.get sampleMachine.network sampleConfig.account.authUrl
          [Http.basicHeader (Utf8.encode "k") (Utf8.encode "s")]).sent ++
        samplePlan.flatMap (fun r =>
          (sample.client.get sampleMachine.network r.url (attached r.url)).sent) ∧
      ∀ r ∈ samplePlan, sampleConfig.Attaches (some ⟨"t", some "http://h"⟩) r.url
        (attached r.url) := by
  have hmake : ((make sampleConfig sampleEnvironment).run { files := .empty }).1 = .ok sample := by
    decide +kernel
  have hdir : FileTree.empty.ensureDirectory [] sampleConfig.bootstrap.configDir =
      (FileTree.empty.put [Utf8.encode "d"] .directory, .ok ()) := rfl
  obtain ⟨authorization, answer, attempted, attached, hsent, hreached, -, hkeys, hattached⟩ :=
    prepare_authenticates hmake (m := sampleMachine) (p := { files := .empty }) hdir [] .empty
  -- the last download of the plan is the one that fails
  have hresult : ((sample.prepare sampleMachine [] .empty).run { files := .empty }).1 =
      .error (.fetch (.status "http://h/b" 404)) := by
    decide +kernel
  obtain rfl : attempted = samplePlan := by
    rw [hresult] at hreached
    obtain ⟨before, r, after, hplan, hurl, rfl⟩ := hreached.of_fetch
    match before, hplan with
    | [], hplan =>
        obtain ⟨rfl, -⟩ := List.cons.inj hplan
        exact absurd hurl (by decide)
    | [_], hplan =>
        obtain ⟨rfl, hrest⟩ := List.cons.inj hplan
        obtain ⟨rfl, -⟩ := List.cons.inj hrest
        rfl
    | _ :: _ :: _, hplan => simp [sample, samplePlan] at hplan
  obtain ⟨hauthorization, -, hgranted⟩ := hkeys "k" "s" rfl
  obtain ⟨grant, rfl, hgrant⟩ := hgranted (by decide)
  have hauthorize : ((authorize sampleMachine sample.client "http://p/" "k" "s").run
      { files := .empty }).1 = .ok ⟨"t", some "http://h"⟩ := by
    decide +kernel
  obtain rfl := Except.ok.inj ((hgrant _).symm.trans hauthorize)
  refine ⟨attached, ?_, fun r hr => (hattached r hr).1⟩
  simpa only [hauthorization, List.nil_append] using hsent

end Bootstrap

end Prelaunch
