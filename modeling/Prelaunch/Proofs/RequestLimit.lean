import Prelaunch.Proofs.Construction
import Prelaunch.Proofs.Delivery
import Prelaunch.Proofs.Preparation

/-!
How many requests are sent. The client counts the redirects that it follows, so that a chain ends
however the network goes on, be it in a circle or to ever new URLs. What a whole run sends is a
chain for the grant, if there are keys, and one for each download.
-/

namespace Prelaunch

namespace Http

section Answer

variable {net : Network} {patience : Patience} {r : Request} {hop other : Hop}

theorem SendsOn.unique (h : SendsOn net patience r hop) (h' : SendsOn net patience r other) :
    hop = other := by
  obtain ⟨hreply, htarget⟩ := h
  obtain ⟨hreply', htarget'⟩ := h'
  cases hreply.symm.trans hreply'
  cases htarget.symm.trans htarget'
  rfl

/-- Only an answer sends the client on. -/
theorem SendsOn.exists_answered (h : SendsOn net patience r hop) :
    ∃ response, net.send patience r = .answered response ∧
      net.target? r.url response = some hop.target := by
  obtain ⟨hreply, htarget⟩ := h
  exact ⟨_, hreply, htarget⟩

theorem not_sendsOn_of_answered {response : Response}
    (hreply : net.send patience r = .answered response)
    (hlast : net.target? r.url response = none) : ¬ SendsOn net patience r hop := by
  intro hnext
  obtain ⟨response', hanswered, htarget⟩ := hnext.exists_answered
  cases hreply.symm.trans hanswered
  cases hlast.symm.trans htarget

end Answer

namespace Client

/-! One chain. -/

/-- The ways a chain goes on from a request, with so many redirects left. -/
inductive Follows (net : Network) (patience : Patience) (first : Request) :
    Nat → List Hop → Request → Exchange → Prop where
  | unsent {budget before r cause}
      (hreply : net.send patience r = .refused ∨ net.send patience r = .unconnected)
      (hcause : ∀ text, cause ≠ .tooManyRedirects text) :
      Follows net patience first budget before r ⟨[], .error cause⟩
  | unanswered {budget before r cause}
      (hreply : net.send patience r = .dropped ∨ net.send patience r = .unanswered)
      (hcause : ∀ text, cause ≠ .tooManyRedirects text) :
      Follows net patience first budget before r ⟨[r], .error cause⟩
  | answered {budget before r response} (hreply : net.send patience r = .answered response)
      (hlast : net.target? r.url response = none) :
      Follows net patience first budget before r ⟨[r], .ok response⟩
  | tooManyRedirects {before r hop} (hnext : SendsOn net patience r hop) :
      Follows net patience first 0 before r ⟨[r], .error (.tooManyRedirects r.url.text)⟩
  | unsupported {budget before r hop} (hnext : SendsOn net patience r hop)
      (hfetchable : hop.target.isFetchable = false) :
      Follows net patience first (budget + 1) before r
        ⟨[r], .error (.unsupportedScheme hop.target.text)⟩
  | redirected {budget before r hop rest} (hnext : SendsOn net patience r hop)
      (hfetchable : hop.target.isFetchable = true)
      (hrest : Follows net patience first budget (hop :: before)
        (redirected net first hop before) rest) :
      Follows net patience first (budget + 1) before r ⟨r :: rest.sent, rest.outcome⟩

variable {net : Network} {patience : Patience} {first : Request} {budget : Nat}
  {before : List Hop} {r : Request} {e : Exchange} {text : String}

theorem follows_follow (net : Network) (patience : Patience) (first : Request) (budget : Nat)
    (before : List Hop) (r : Request) :
    Follows net patience first budget before r (follow net patience first budget before r) := by
  fun_induction follow net patience first budget before r with
  | case1 budget before r hreply => exact .unsent (.inl hreply) (by simp)
  | case2 budget before r hreply => exact .unsent (.inr hreply) (by simp)
  | case3 budget before r hreply => exact .unanswered (.inl hreply) (by simp)
  | case4 budget before r hreply => exact .unanswered (.inr hreply) (by simp)
  | case5 budget before r response hreply hlast => exact .answered hreply hlast
  | case6 before r response hreply target htarget =>
      exact .tooManyRedirects (.redirect hreply htarget)
  | case7 before r response hreply target htarget budget hfetchable hop rest ih =>
      exact .redirected (.redirect hreply htarget) hfetchable ih
  | case8 before r response hreply target htarget budget hfetchable =>
      have hnext : SendsOn net patience r ⟨response.status, r.url, target⟩ :=
        .redirect hreply htarget
      have hend := @Follows.unsupported net patience first budget before r _ hnext
        (Bool.eq_false_iff.2 hfetchable)
      exact hend

/-- Each redirect that is followed costs one of those that are left. -/
theorem Follows.length_le (h : Follows net patience first budget before r e) :
    e.sent.length ≤ budget + 1 := by
  induction h with
  | unsent => simp
  | unanswered => simp
  | answered => simp
  | tooManyRedirects => simp
  | unsupported => simp
  | redirected _ _ _ ih => simpa using ih

/-- There are too many redirects exactly if the last request that may be sent is answered by one. -/
theorem Follows.tooManyRedirects_iff (h : Follows net patience first budget before r e) :
    e.outcome = .error (.tooManyRedirects text) ↔
      ∃ q hop, e.sent[budget]? = some q ∧ SendsOn net patience q hop ∧ text = q.url.text := by
  induction h with
  | unsent hreply hcause => simp [hcause]
  | @unanswered budget before r cause hreply hcause =>
      simp only [Except.error.injEq, hcause, false_iff]
      rintro ⟨q, hop, hq, hnext, -⟩
      obtain rfl : q = r := List.mem_singleton.1 (List.mem_of_getElem? hq)
      obtain ⟨response, hanswered, -⟩ := hnext.exists_answered
      obtain hdropped | hunanswered := hreply
      · cases hdropped.symm.trans hanswered
      · cases hunanswered.symm.trans hanswered
  | @answered budget before r response hreply hlast =>
      simp only [reduceCtorEq, false_iff]
      rintro ⟨q, hop, hq, hnext, -⟩
      obtain rfl : q = r := List.mem_singleton.1 (List.mem_of_getElem? hq)
      exact not_sendsOn_of_answered hreply hlast hnext
  | @tooManyRedirects before r hop hnext =>
      constructor
      · intro hmany
        obtain rfl : r.url.text = text := by simpa using hmany
        exact ⟨r, hop, rfl, hnext, rfl⟩
      · rintro ⟨q, _, hq, -, rfl⟩
        obtain rfl : r = q := by simpa using hq
        rfl
  | unsupported => simp
  | redirected _ _ _ ih => simpa using ih

/-- Where every answer is a redirect to a URL that can be fetched, all requests that may be sent are
sent. -/
theorem Follows.length_eq (h : Follows net patience first budget before r e)
    (hendless : ∀ q, ∃ hop, SendsOn net patience q hop ∧ hop.target.isFetchable = true) :
    e.sent.length = budget + 1 := by
  induction h with
  | unsent hreply | unanswered hreply =>
      obtain ⟨hop, hnext, -⟩ := hendless _
      obtain ⟨response, hanswered, -⟩ := hnext.exists_answered
      obtain hreply | hreply := hreply <;> cases hreply.symm.trans hanswered
  | answered hreply hlast =>
      obtain ⟨_, hnext, -⟩ := hendless _
      exact absurd hnext (not_sendsOn_of_answered hreply hlast)
  | tooManyRedirects => rfl
  | unsupported hnext hfetchable =>
      obtain ⟨_, hother, hfetchable'⟩ := hendless _
      rw [hnext.unique hother, hfetchable'] at hfetchable
      cases hfetchable
  | redirected _ _ _ ih => simpa using ih

/-! What the client is asked for. -/

/-- A URL that can be fetched begins a chain, and for any other nothing is sent. -/
theorem nothing_or_follows (c : Client) (net : Network) (url : String) (extra : List Header) :
    ((c.get net url extra).sent = [] ∧
        ∀ text, (c.get net url extra).outcome ≠ .error (.tooManyRedirects text)) ∨
      ∃ first, Follows net c.patience first c.maxRedirects [] first (c.get net url extra) := by
  unfold get
  cases Url.parse url with
  | error e => exact .inl ⟨rfl, by simp⟩
  | ok u =>
      cases hfetchable : u.isFetchable with
      | false => exact .inl ⟨by simp [hfetchable], by simp [hfetchable]⟩
      | true =>
          have hfollows := follows_follow net c.patience (c.firstRequest u extra) c.maxRedirects []
            (c.firstRequest u extra)
          exact .inr ⟨_, by simpa [hfetchable] using hfollows⟩

theorem length_sent_get_le (c : Client) (net : Network) (url : String) (extra : List Header) :
    (c.get net url extra).sent.length ≤ c.maxRedirects + 1 := by
  obtain ⟨hnothing, -⟩ | ⟨u, hfollows⟩ := c.nothing_or_follows net url extra
  · simp [hnothing]
  · exact hfollows.length_le

theorem outcome_get_eq_tooManyRedirects_iff (c : Client) (net : Network) (url : String)
    (extra : List Header) :
    (c.get net url extra).outcome = .error (.tooManyRedirects text) ↔
      ∃ q hop, (c.get net url extra).sent[c.maxRedirects]? = some q ∧
        SendsOn net c.patience q hop ∧ text = q.url.text := by
  obtain ⟨hnothing, hnot⟩ | ⟨u, hfollows⟩ := c.nothing_or_follows net url extra
  · simp [hnothing, hnot text]
  · exact hfollows.tooManyRedirects_iff

theorem maxRedirects_of_make {s : HttpSettings} {c : Client} (h : make s = .ok c) :
    c.maxRedirects = s.maxRedirects := by
  unfold make at h
  split at h
  · obtain rfl := Except.ok.inj h
    rfl
  · cases h

end Client

theorem Response.read_ne_tooManyRedirects (r : Response) (last : String) :
    r.read ≠ .error (.tooManyRedirects last) := by
  unfold read
  split
  · simp
  · split <;> simp

end Http

/-! One download, and one grant. -/

namespace Download

variable {net : Http.Network} {client : Http.Client} {url : String} {header : Option Header}

theorem ofFailure_eq_tooManyRedirects {cause : Http.Failure} :
    FetchError.ofFailure url cause = .tooManyRedirects url ↔
      ∃ last, cause = .tooManyRedirects last := by
  cases cause <;> simp [FetchError.ofFailure, Http.Failure.isTimeout]

theorem arrival_eq_tooManyRedirects :
    arrival net client url header = .error (.tooManyRedirects url) ↔
      ∃ last, (client.get net url header.toList).outcome = .error (.tooManyRedirects last) := by
  unfold arrival
  cases (client.get net url header.toList).outcome with
  | error cause => simp [ofFailure_eq_tooManyRedirects]
  | ok response =>
      cases hsuccess : response.isSuccess with
      | false => simp [hsuccess]
      | true =>
          cases hread : response.read with
          | ok body => simp [hsuccess, hread]
          | error cause =>
              simp only [hsuccess, hread, if_true, Except.error.injEq,
                ofFailure_eq_tooManyRedirects, reduceCtorEq, exists_false, iff_false, not_exists]
              rintro last rfl
              exact response.read_ne_tooManyRedirects last hread

theorem outcome_eq_tooManyRedirects {m : Machine} {path : Path} {t : FileTree} :
    outcome m client url path header t = .error (.tooManyRedirects url) ↔
      arrival m.network client url header = .error (.tooManyRedirects url) := by
  unfold outcome
  cases arrival m.network client url header with
  | error e => simp
  | ok body => cases hwrite : t.write m.workingDir path body <;> simp [hwrite]

theorem sent_fetch (m : Machine) (client : Http.Client) (url : String) (path : Path)
    (header : Option Header) (p : Progress) :
    ((fetch m client url path header).run p).2.sent =
      p.sent ++ (client.get m.network url header.toList).sent := by
  obtain ⟨events, hrun⟩ := run_fetch m client url path header p
  rw [hrun]
  cases outcome m client url path header p.files <;> rfl

theorem result_fetch_eq_tooManyRedirects (m : Machine) (client : Http.Client) (url : String)
    (path : Path) (header : Option Header) (p : Progress) :
    ((fetch m client url path header).run p).1 = .error (.tooManyRedirects url) ↔
      ∃ last, (client.get m.network url header.toList).outcome =
        .error (.tooManyRedirects last) := by
  rw [fetch_eq_error_iff, outcome_eq_tooManyRedirects, arrival_eq_tooManyRedirects]

end Download

theorem sent_authorize (m : Machine) (client : Http.Client) (url keyId applicationKey : String)
    (p : Progress) :
    ((authorize m client url keyId applicationKey).run p).2.sent =
      p.sent ++ (Grant.exchange client url keyId applicationKey m.network).sent := by
  obtain ⟨events, hrun⟩ := run_authorize m client url keyId applicationKey p
  rw [hrun]

namespace Bootstrap

/-! A whole preparation. -/

variable {b : Bootstrap} {m : Machine}

theorem length_asked_le (b : Bootstrap) (net : Http.Network) :
    (b.asked net).length ≤
      (if b.config.account.credentials?.isSome then 1 else 0) * (b.client.maxRedirects + 1) := by
  cases hkeys : b.config.account.credentials? with
  | none => simp [b.asked_of_credentials_none hkeys]
  | some keys =>
      rw [b.asked_of_credentials_some hkeys]
      simpa using b.client.length_sent_get_le net _ _

theorem length_flatMap_exchange_le (m : Machine) (client : Http.Client) (broker : Broker)
    (plan : List ArtifactRequest) :
    (plan.flatMap fun r => (r.exchange m client broker).sent).length ≤
      plan.length * (client.maxRedirects + 1) := by
  induction plan with
  | nil => simp
  | cons r rest ih =>
      have hone : (r.exchange m client broker).sent.length ≤ client.maxRedirects + 1 :=
        client.length_sent_get_le _ _ _
      rw [List.flatMap_cons, List.length_append, List.length_cons, Nat.succ_mul]
      omega

theorem Stages.sent_le {args : List Bytes} {env : Environment} {p after : Progress}
    {result : Except BootstrapError Prepared} (h : b.Stages m args env p result after) :
    ∃ sent, after.sent = p.sent ++ sent ∧ sent.length ≤
      (b.artifacts.length + if b.config.account.credentials?.isSome then 1 else 0) *
        (b.client.maxRedirects + 1) := by
  have hasked := b.length_asked_le m.network
  cases h with
  | unusable => exact ⟨[], by simp, Nat.zero_le _⟩
  | refused =>
      refine ⟨b.asked m.network, rfl, ?_⟩
      rw [Nat.add_mul]
      omega
  | @provided t provider written failure after hdir hgrant hdownloads hsent =>
      refine ⟨_, by rw [hsent, List.append_assoc], ?_⟩
      -- the downloads that are reached are some of the plan
      have hreached : (b.artifacts.take (written.length + 1)).length ≤ b.artifacts.length :=
        List.length_take_le' ..
      have hchains := length_flatMap_exchange_le m b.client (b.broker provider)
        (b.artifacts.take (written.length + 1))
      have hmul := Nat.mul_le_mul_right (b.client.maxRedirects + 1) hreached
      rw [List.length_append, Nat.add_mul]
      omega

/-- However a network sends the client around, no more requests are sent than the limit allows. A
download and an authorization send one more than there are redirects to follow at most. A redirect
in answer to the last of them makes a download fail for too many redirects of its URL, which nothing
else does, and an authorization fail for its request. A preparation sends no more than that for each
download of its plan, and once for the grant if there are keys. -/
theorem requests_stay_within_limit (m : Machine) (client : Http.Client) :
    (∀ url path header p, ∃ chain,
      ((Download.fetch m client url path header).run p).2.sent = p.sent ++ chain ∧
      chain.length ≤ client.maxRedirects + 1 ∧
      (((Download.fetch m client url path header).run p).1 = .error (.tooManyRedirects url) ↔
        ∃ q hop, chain[client.maxRedirects]? = some q ∧
          Http.SendsOn m.network client.patience q hop)) ∧
    (∀ url keyId applicationKey p, ∃ chain,
      ((authorize m client url keyId applicationKey).run p).2.sent = p.sent ++ chain ∧
      chain.length ≤ client.maxRedirects + 1 ∧
      ∀ q hop, chain[client.maxRedirects]? = some q →
        Http.SendsOn m.network client.patience q hop →
        ((authorize m client url keyId applicationKey).run p).1 =
          .error (.request url (.tooManyRedirects q.url.text))) ∧
    ∀ c env₀ start b, ((make c env₀).run start).1 = .ok b → ∀ args env p, ∃ sent,
      ((b.prepare m args env).run p).2.sent = p.sent ++ sent ∧
      sent.length ≤ (b.artifacts.length + if c.account.credentials?.isSome then 1 else 0) *
        (c.http.maxRedirects + 1) := by
  refine ⟨fun url path header p => ?_, fun url keyId applicationKey p => ?_, ?_⟩
  · refine ⟨_, Download.sent_fetch m client url path header p, client.length_sent_get_le _ _ _, ?_⟩
    rw [Download.result_fetch_eq_tooManyRedirects]
    simp only [Http.Client.outcome_get_eq_tooManyRedirects_iff]
    constructor
    · rintro ⟨last, q, hop, hq, hnext, -⟩
      exact ⟨q, hop, hq, hnext⟩
    · rintro ⟨q, hop, hq, hnext⟩
      exact ⟨q.url.text, q, hop, hq, hnext, rfl⟩
  · refine ⟨_, sent_authorize m client url keyId applicationKey p, client.length_sent_get_le _ _ _,
      fun q hop hq hnext => ?_⟩
    have hmany := (client.outcome_get_eq_tooManyRedirects_iff m.network url
      [Grant.proof keyId applicationKey]).2 ⟨q, hop, hq, hnext, rfl⟩
    rw [authorize_result, Grant.obtained, Grant.exchange, hmany]
  · intro c env₀ start b hmake args env p
    have hbuilt := isBuilt_of_make hmake
    obtain ⟨result, after, hrun, hstages⟩ := b.stages m args env p
    obtain ⟨sent, hsent, hle⟩ := hstages.sent_le
    rw [hbuilt.config, Http.Client.maxRedirects_of_make hbuilt.client] at hle
    exact ⟨sent, by rw [hrun, hsent], hle⟩

/-! A network that leads in a circle. -/

def circleUrl : Url := ⟨"http", "", "", some (.domain "a"), none, .segments [""], none, none⟩

def circlingMachine : Machine where
  network.reply _ _ := .answered ⟨302, [("Location", Utf8.encode "http://a/")], [], .whole⟩
  workingDir := []

def circlingClient (maxRedirects : Nat) : Http.Client := ⟨[], maxRedirects, ⟨10, none⟩⟩

theorem sendsOn_circle (patience : Http.Patience) {q : Http.Request} (hurl : q.url = circleUrl) :
    Http.SendsOn circlingMachine.network patience q ⟨302, q.url, circleUrl⟩ := by
  have hreply : circlingMachine.network.send patience q =
      .answered ⟨302, [("Location", Utf8.encode "http://a/")], [], .whole⟩ := rfl
  refine .redirect hreply ?_
  rw [hurl]
  decide +kernel

theorem requests_stay_within_limit_sample :
    ((Download.fetch circlingMachine (circlingClient 1) "http://a/" (.ofText "/f") none).run
        { files := .empty }).1 = .error (.tooManyRedirects "http://a/") ∧
      ((authorize circlingMachine (circlingClient 0) "http://a/" "k" "s").run
        { files := .empty }).1 = .error (.request "http://a/" (.tooManyRedirects "http://a/")) ∧
      ((sample.prepare sampleMachine [] .empty).run { files := .empty }).2.sent.length ≤ 33 := by
  refine ⟨?_, ?_, ?_⟩
  · obtain ⟨chain, hsent, -, hmany⟩ := (requests_stay_within_limit circlingMachine
      (circlingClient 1)).1 "http://a/" (.ofText "/f") none { files := .empty }
    obtain rfl : _ = chain := hsent
    have hsecond : (((Download.fetch circlingMachine (circlingClient 1) "http://a/" (.ofText "/f")
        none).run { files := .empty }).2.sent[1]?).map Http.Request.url = some circleUrl := by
      decide +kernel
    obtain ⟨q, hq, hurl⟩ := Option.map_eq_some_iff.1 hsecond
    exact hmany.2 ⟨q, _, hq, sendsOn_circle _ hurl⟩
  · obtain ⟨chain, hsent, -, hmany⟩ := (requests_stay_within_limit circlingMachine
      (circlingClient 0)).2.1 "http://a/" "k" "s" { files := .empty }
    obtain rfl : _ = chain := hsent
    have hfirst : (((authorize circlingMachine (circlingClient 0) "http://a/" "k" "s").run
        { files := .empty }).2.sent[0]?).map Http.Request.url = some circleUrl := by
      decide +kernel
    obtain ⟨q, hq, hurl⟩ := Option.map_eq_some_iff.1 hfirst
    rw [hmany q _ hq (sendsOn_circle _ hurl), hurl]
    decide +kernel
  · have hmake :
        ((make sampleConfig sampleEnvironment).run { files := .empty }).1 = .ok sample := by
      decide +kernel
    obtain ⟨sent, hsent, hle⟩ := (requests_stay_within_limit sampleMachine sample.client).2.2
      sampleConfig sampleEnvironment { files := .empty } sample hmake [] .empty { files := .empty }
    rw [hsent]
    exact hle

end Bootstrap

end Prelaunch
