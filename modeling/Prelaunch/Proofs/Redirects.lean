import Mathlib.Data.List.Count
import Prelaunch.Http.Client

/-!
Chains of requests that follow redirects. The first request and the redirects on its way fix a
chain, so that a chain can be compared, request by request, with the one that has other headers
attached to it and is sent around in the same way.
-/

namespace Prelaunch.Http

namespace Client

variable {net : Network} {u : Url} {first other r s : Request} {h : Header} {hop : Hop}
  {before : List Hop} {steps : List (Nat × Url)} {j : Nat}

@[simp] theorem url_firstRequest (c : Client) (u : Url) (extra : List Header) :
    (c.firstRequest u extra).url = u.withoutUserInfo := rfl

@[simp] theorem url_redirected (net : Network) (first : Request) (hop : Hop)
    (before : List Hop) : (redirected net first hop before).url = hop.target.withoutUserInfo := rfl

/-- The redirects that are followed from a request, each with its status and the URL it leads to, or
nothing if the request is not sent. -/
def route (net : Network) (patience : Patience) (first : Request) :
    Nat → List Hop → Request → Option (List (Nat × Url))
  | budget, before, r =>
    match net.send patience r with
    | .refused => none
    | .unconnected => none
    | .dropped => some []
    | .unanswered => some []
    | .answered response =>
      match net.target? r.url response with
      | none => some []
      | some target =>
        match budget with
        | 0 => some []
        | budget + 1 =>
          if target.isFetchable then
            let hop : Hop := ⟨response.status, r.url, target⟩
            let rest := route net patience first budget (hop :: before)
              (redirected net first hop before)
            some (rest.elim [] ((response.status, target) :: ·))
          else some []

/-- A request and those that follow it through redirects. -/
def along (net : Network) (first : Request) : List Hop → Request → List (Nat × Url) → List Request
  | _, r, [] => [r]
  | before, r, (status, target) :: more =>
    let hop : Hop := ⟨status, r.url, target⟩
    r :: along net first (hop :: before) (redirected net first hop before) more

theorem along_cons (step : Nat × Url) (more : List (Nat × Url)) :
    along net first before r (step :: more) =
      r :: along net first (⟨step.1, r.url, step.2⟩ :: before)
        (redirected net first ⟨step.1, r.url, step.2⟩ before) more := rfl

theorem sent_follow (net : Network) (patience : Patience) (first : Request) (budget : Nat)
    (before : List Hop) (r : Request) :
    (follow net patience first budget before r).sent =
      (route net patience first budget before r).elim [] (along net first before r) := by
  induction budget generalizing before r with
  | zero =>
      unfold follow route
      cases net.send patience r with
      | answered response => cases hnext : net.target? r.url response <;> simp [hnext, along]
      | _ => rfl
  | succ budget ih =>
      unfold follow route
      cases net.send patience r with
      | answered response =>
          cases hnext : net.target? r.url response with
          | none => simp [hnext, along]
          | some target =>
              cases hfetch : target.isFetchable with
              | false => simp [hnext, hfetch, along]
              | true =>
                  simp only [hnext, hfetch, if_true, ih, Option.elim_some]
                  cases route net patience first budget _ _ <;> simp [along]
      | _ => rfl

/-- The chain that begins at a URL with other headers than those attached to it, and is sent around
as it is with these. -/
def beside (c : Client) (net : Network) (url : String) (extra others : List Header) :
    List Request :=
  match Url.parse url with
  | .error _ => []
  | .ok u =>
    if u.isFetchable then
      let first := c.firstRequest u extra
      let other := c.firstRequest u others
      (route net c.patience first c.maxRedirects [] first).elim [] (along net other [] other)
    else []

theorem sent_get (c : Client) (net : Network) (url : String) (extra : List Header) :
    (c.get net url extra).sent = c.beside net url extra extra := by
  unfold get beside
  cases Url.parse url with
  | error e => rfl
  | ok u =>
      cases hfetch : u.isFetchable with
      | false => simp [hfetch]
      | true => simp [hfetch, sent_follow]

/-- Either nothing is sent, or all these chains go along one way. -/
theorem beside_cases (c : Client) (net : Network) (url : String) (extra : List Header) :
    (∀ others, c.beside net url extra others = []) ∨
      ∃ u steps, Url.parse url = .ok u ∧ ∀ others, c.beside net url extra others =
        along net (c.firstRequest u others) [] (c.firstRequest u others) steps := by
  unfold beside
  cases Url.parse url with
  | error e => exact .inl fun others => rfl
  | ok u =>
      cases hfetch : u.isFetchable with
      | false => exact .inl fun others => by simp [hfetch]
      | true =>
          cases hroute : route net c.patience (c.firstRequest u extra) c.maxRedirects []
            (c.firstRequest u extra) with
          | none => exact .inl fun others => by simp [hfetch, hroute]
          | some steps =>
              exact .inr ⟨u, steps, rfl, fun others => by simp [hfetch, hroute]⟩

theorem head?_along : (along net first before r steps).head? = some r := by
  cases steps <;> rfl

/-- The first request, if one is sent, is for the URL itself. -/
theorem head?_sent_get {c : Client} {url : String} {extra : List Header}
    (h : (c.get net url extra).sent.head? = some r) :
    ∃ u, Url.parse url = .ok u ∧ r = c.firstRequest u extra := by
  rw [sent_get] at h
  obtain hnone | ⟨u, steps, hurl, hchain⟩ := c.beside_cases net url extra
  · simp [hnone] at h
  · rw [hchain, head?_along] at h
    exact ⟨u, hurl, (Option.some.inj h).symm⟩

theorem mem_headers_of_head? {c : Client} {url : String} {extra : List Header} (hh : h ∈ extra)
    (hhead : (c.get net url extra).sent.head? = some r) : h ∈ r.headers := by
  obtain ⟨u, -, rfl⟩ := head?_sent_get hhead
  simp [firstRequest, hh]

theorem map_url_along (net : Network) (first : Request) (before : List Hop) (r : Request)
    (steps : List (Nat × Url)) :
    (along net first before r steps).map (·.url) =
      r.url :: steps.map fun step => step.2.withoutUserInfo := by
  induction steps generalizing before r with
  | nil => rfl
  | cons step more ih => simp [along, ih]

theorem map_url_beside (c : Client) (net : Network) (url : String)
    (extra others : List Header) :
    (c.get net url extra).sent.map (·.url) = (c.beside net url extra others).map (·.url) := by
  rw [sent_get]
  obtain hnone | ⟨u, steps, -, hchain⟩ := c.beside_cases net url extra
  · rw [hnone, hnone]
  · rw [hchain, hchain, map_url_along, map_url_along, url_firstRequest, url_firstRequest]

/-! Where hosts look at nothing but URLs, the way of a chain does not depend on its headers. -/

theorem send_eq_of_answersUrls (hnet : net.AnswersUrls)
    (patience : Patience) (hurl : r.url = s.url) : net.send patience r = net.send patience s :=
  hnet patience ⟨r.url.plain, r.headers⟩ ⟨s.url.plain, s.headers⟩ (congrArg Url.plain hurl)

theorem route_eq_of_answersUrls (hnet : net.AnswersUrls) (patience : Patience) (budget : Nat)
    (hurl : r.url = s.url) :
    route net patience first budget before r = route net patience other budget before s := by
  induction budget generalizing before r s with
  | zero =>
      unfold route
      rw [send_eq_of_answersUrls hnet patience hurl, hurl]
  | succ budget ih =>
      unfold route
      rw [send_eq_of_answersUrls hnet patience hurl, hurl]
      have hrest (hop : Hop) :
          route net patience first budget (hop :: before) (redirected net first hop before) =
            route net patience other budget (hop :: before) (redirected net other hop before) :=
        ih rfl
      simp only [hrest]

/-- The chain beside another is then the one that is sent with its headers. -/
theorem beside_eq_of_answersUrls (hnet : net.AnswersUrls) (c : Client) (url : String)
    (extra others : List Header) :
    c.beside net url extra others = (c.get net url others).sent := by
  rw [sent_get]
  unfold beside
  cases Url.parse url with
  | error e => rfl
  | ok u =>
      have hroute : route net c.patience (c.firstRequest u extra) c.maxRedirects []
          (c.firstRequest u extra) = route net c.patience (c.firstRequest u others) c.maxRedirects []
            (c.firstRequest u others) :=
        route_eq_of_answersUrls hnet c.patience c.maxRedirects rfl
      simp only [hroute]

/-! Which headers go along. -/

theorem dropsForGood_of_guarded {name : String} (hcarries : net.carries = carriesForGood)
    (hname : guardedNames.contains name = true) : net.DropsForGood name := by
  intro hops hgoes hop hmem
  rw [hcarries, carriesForGood, carriesIf, hname, Bool.not_true, Bool.or_false,
    Bool.and_eq_true_iff, List.all_eq_true] at hgoes
  exact hgoes.1 hop hmem

theorem keepsAtHost_of_not_payload {name : String} (hcarries : net.carries = carriesForGood)
    (hname : payloadNames.contains name = false) : net.KeepsAtHost name := by
  intro hops hstays
  rw [hcarries, carriesForGood, carriesIf, hname, List.all_eq_true.2 hstays]
  simp

/-! Which requests carry what. -/

theorem isSameHost_iff {a b : Url} :
    isSameHost a b = true ↔ a.hostText? = b.hostText? ∧ a.effectivePort? = b.effectivePort? := by
  simp [isSameHost]

@[simp] theorem isSameHost_withoutUserInfo (a b : Url) :
    isSameHost a b.withoutUserInfo = isSameHost a b := rfl

theorem isSameHost_trans {a b c : Url} (hab : isSameHost a b = true) :
    isSameHost a c = isSameHost b c := by
  obtain ⟨hhost, hport⟩ := isSameHost_iff.1 hab
  simp [isSameHost, hhost, hport]

/-- Up to a place in the chain, all requests are for the host and port of a URL. -/
def StaysAt (u : Url) (chain : List Request) (j : Nat) : Prop :=
  ∀ i ≤ j, ∀ q, chain[i]? = some q →
    q.url.hostText? = u.hostText? ∧ q.url.effectivePort? = u.effectivePort?

/-- The request at a place has the header once more than it has in the chain beside it. -/
def CarriesAt (h : Header) (chain bare : List Request) (j : Nat) : Prop :=
  ∃ r s, chain[j]? = some r ∧ bare[j]? = some s ∧ s.headers.count h < r.headers.count h

section Places

variable {chain bare : List Request}

theorem not_carriesAt_nil : ¬ CarriesAt h [] bare j := by
  rintro ⟨r, -, hr, -⟩
  simp at hr

theorem not_carriesAt_self : ¬ CarriesAt h chain chain j := by
  rintro ⟨r, s, hr, hs, hlt⟩
  obtain rfl : r = s := Option.some.inj (hr.symm.trans hs)
  exact absurd hlt (Nat.lt_irrefl _)

theorem CarriesAt.lt_length (hcarries : CarriesAt h chain bare j) : j < chain.length := by
  obtain ⟨r, -, hr, -⟩ := hcarries
  exact (List.getElem?_eq_some_iff.1 hr).1

theorem carriesAt_cons_zero :
    CarriesAt h (r :: chain) (s :: bare) 0 ↔ s.headers.count h < r.headers.count h := by
  simp [CarriesAt]

theorem carriesAt_cons_succ :
    CarriesAt h (r :: chain) (s :: bare) (j + 1) ↔ CarriesAt h chain bare j := Iff.rfl

theorem staysAt_cons_zero : StaysAt u (r :: chain) 0 ↔ isSameHost u r.url = true := by
  rw [isSameHost_iff]
  constructor
  · intro h
    obtain ⟨hhost, hport⟩ := h 0 (Nat.le_refl 0) r rfl
    exact ⟨hhost.symm, hport.symm⟩
  · rintro ⟨hhost, hport⟩ i hi q hq
    obtain rfl : i = 0 := Nat.le_zero.1 hi
    obtain rfl : r = q := Option.some.inj hq
    exact ⟨hhost.symm, hport.symm⟩

theorem staysAt_cons_succ :
    StaysAt u (r :: chain) (j + 1) ↔ isSameHost u r.url = true ∧ StaysAt u chain j := by
  have hfirst : StaysAt u (r :: chain) 0 ↔ isSameHost u r.url = true := staysAt_cons_zero
  rw [← hfirst]
  constructor
  · intro h
    exact ⟨fun i hi => h i (by omega), fun i hi => h (i + 1) (by omega)⟩
  · rintro ⟨hzero, hrest⟩ i hi
    cases i with
    | zero => exact hzero 0 (Nat.le_refl 0)
    | succ i => exact hrest i (by omega)

/-- A chain whose second request is for another host has left its URL. -/
theorem not_staysAt_of_hosts {url : String} {host other : Option String}
    (hstart : (Url.parse url).toOption.map (·.hostText?) = some host)
    (hhosts : chain.map (·.url.hostText?) = [host, other]) (hne : other ≠ host)
    (hurl : Url.parse url = .ok u) : ¬ StaysAt u chain 1 := by
  intro hstays
  rw [hurl] at hstart
  have hhost : u.hostText? = host := Option.some.inj hstart
  have hsecond : (chain[1]?).map (·.url.hostText?) = some other := by
    rw [← List.getElem?_map, hhosts]
    rfl
  obtain ⟨q, hplace, rfl⟩ := Option.map_eq_some_iff.1 hsecond
  exact hne ((hstays 1 (Nat.le_refl 1) q hplace).1.trans hhost)

theorem StaysAt.zero (hstays : StaysAt u (r :: chain) j) : isSameHost u r.url = true :=
  staysAt_cons_zero.1 fun _ hi => hstays _ (Nat.le_trans hi (Nat.zero_le j))

end Places

/-! A chain beside another. -/

theorem count_filter_eq (p : Header → Bool) (headers : List Header) (h : Header) :
    (headers.filter p).count h = if p h then headers.count h else 0 := by
  cases hp : p h with
  | true => simp [List.count_filter hp]
  | false => simp [List.count_eq_zero_of_not_mem, List.mem_filter, hp]

/-- Besides what goes along of the first request there is only what the client puts in. -/
theorem count_redirected (net : Network) (first : Request) (hop : Hop) (before : List Hop)
    (h : Header) :
    (redirected net first hop before).headers.count h =
      (if net.carries (hop :: before) h.name = true ∧
          (h.name = "referer" → referer? hop = none) then first.headers.count h else 0) +
        (referer? hop).toList.count h := by
  unfold redirected
  cases referer? hop with
  | none => simp [count_filter_eq]
  | some referer =>
      cases hcarries : net.carries (hop :: before) h.name <;>
        by_cases hname : h.name = "referer" <;> simp [count_filter_eq, hcarries, hname]

theorem count_redirected_lt_iff :
    (redirected net other hop before).headers.count h <
        (redirected net first hop before).headers.count h ↔
      (net.carries (hop :: before) h.name = true ∧ (h.name = "referer" → referer? hop = none)) ∧
        other.headers.count h < first.headers.count h := by
  rw [count_redirected, count_redirected, Nat.add_lt_add_iff_right]
  split
  · rename_i hgoes
    exact ⟨fun hlt => ⟨hgoes, hlt⟩, fun h => h.2⟩
  · rename_i hstops
    exact ⟨fun hlt => absurd hlt (Nat.lt_irrefl 0), fun h => absurd h.1 hstops⟩

/-- A chain carries nothing more than the one beside it that its first request does not. -/
theorem count_lt_of_carriesAt (hurl : r.url = s.url)
    (hfirst : s.headers.count h < r.headers.count h → other.headers.count h < first.headers.count h)
    (hcarries : CarriesAt h (along net first before r steps) (along net other before s steps) j) :
    other.headers.count h < first.headers.count h := by
  induction steps generalizing before r s j with
  | nil =>
      cases j with
      | zero => exact hfirst (carriesAt_cons_zero.1 hcarries)
      | succ j => exact absurd (carriesAt_cons_succ.1 hcarries) not_carriesAt_nil
  | cons step more ih =>
      cases j with
      | zero => exact hfirst (carriesAt_cons_zero.1 hcarries)
      | succ j =>
          rw [along_cons, along_cons, ← hurl, carriesAt_cons_succ] at hcarries
          exact ih (by simp) (fun hlt => (count_redirected_lt_iff.1 hlt).2) hcarries

/-- A header that is dropped for good is on a request only if no redirect before it has left the
host. -/
theorem staysAt_of_carriesAt (hdrops : net.DropsForGood h.name) (hurl : r.url = s.url)
    (hbefore : s.headers.count h < r.headers.count h → ∀ hop ∈ before, hop.stays = true)
    (hhost : (∀ hop ∈ before, hop.stays = true) → isSameHost u r.url = true)
    (hcarries : CarriesAt h (along net first before r steps) (along net other before s steps) j) :
    (∀ hop ∈ before, hop.stays = true) ∧ StaysAt u (along net first before r steps) j := by
  -- the redirects that have been followed grow along the chain, and the header tells of all of them
  induction steps generalizing before r s j with
  | nil =>
      cases j with
      | zero =>
          have hstays := hbefore (carriesAt_cons_zero.1 hcarries)
          exact ⟨hstays, staysAt_cons_zero.2 (hhost hstays)⟩
      | succ j => exact absurd (carriesAt_cons_succ.1 hcarries) not_carriesAt_nil
  | cons step more ih =>
      cases j with
      | zero =>
          have hstays := hbefore (carriesAt_cons_zero.1 hcarries)
          exact ⟨hstays, staysAt_cons_zero.2 (hhost hstays)⟩
      | succ j =>
          rw [along_cons, along_cons, ← hurl, carriesAt_cons_succ] at hcarries
          have hnext : (∀ hop ∈ (⟨step.1, r.url, step.2⟩ : Hop) :: before, hop.stays = true) →
              isSameHost u step.2.withoutUserInfo = true := by
            intro hstays
            obtain ⟨hhop, hstays⟩ := List.forall_mem_cons.1 hstays
            rwa [isSameHost_withoutUserInfo, isSameHost_trans (hhost hstays)]
          obtain ⟨hstays, hrest⟩ := ih (by simp)
            (fun hlt => hdrops _ (count_redirected_lt_iff.1 hlt).1.1) hnext hcarries
          obtain ⟨-, hstays⟩ := List.forall_mem_cons.1 hstays
          exact ⟨hstays, staysAt_cons_succ.2 ⟨hhost hstays, hrest⟩⟩

/-- A header that is kept at the host is on each request up to the redirect that leaves it. -/
theorem carriesAt_of_staysAt (hkeeps : net.KeepsAtHost h.name) (hname : h.name ≠ "referer")
    (hfirst : other.headers.count h < first.headers.count h) (hurl : r.url = s.url)
    (hlt : s.headers.count h < r.headers.count h) (hbefore : ∀ hop ∈ before, hop.stays = true)
    (hj : j < (along net first before r steps).length)
    (hstays : StaysAt u (along net first before r steps) j) :
    CarriesAt h (along net first before r steps) (along net other before s steps) j := by
  induction steps generalizing before r s j with
  | nil =>
      obtain rfl : j = 0 := by simpa [along] using hj
      exact carriesAt_cons_zero.2 hlt
  | cons step more ih =>
      cases j with
      | zero => exact carriesAt_cons_zero.2 hlt
      | succ j =>
          rw [along_cons] at hj hstays ⊢
          rw [along_cons, ← hurl, carriesAt_cons_succ]
          obtain ⟨hhere, hstays⟩ := staysAt_cons_succ.1 hstays
          have hhop : ∀ hop ∈ (⟨step.1, r.url, step.2⟩ : Hop) :: before, hop.stays = true := by
            refine List.forall_mem_cons.2 ⟨?_, hbefore⟩
            have hnext : isSameHost u step.2 = true := by
              cases more <;> exact hstays.zero
            rwa [isSameHost_trans hhere] at hnext
          refine ih (by simp) ?_ hhop (Nat.lt_of_succ_lt_succ hj) hstays
          exact count_redirected_lt_iff.2 ⟨⟨hkeeps _ hhop, fun h => absurd h hname⟩, hfirst⟩

/-! Headers that the caller attaches. -/

variable {c : Client} {url : String} {extra : List Header}

theorem count_firstRequest_le (c : Client) (u : Url) (hh : h ∉ extra) :
    (c.firstRequest u extra).headers.count h ≤ (c.firstRequest u []).headers.count h := by
  have hkept : (c.defaultHeaders.filter fun d => !extra.any (·.name == d.name)).count h ≤
      c.defaultHeaders.count h := List.filter_sublist.count_le h
  simpa [firstRequest, List.count_append, List.count_eq_zero_of_not_mem hh] using hkept

/-- A header that replaces no default one is on the first request once more. -/
theorem count_firstRequest_lt (c : Client) (u : Url)
    (hnew : ∀ d ∈ c.defaultHeaders, h.name ≠ d.name) :
    (c.firstRequest u []).headers.count h < (c.firstRequest u [h]).headers.count h := by
  have hkept : c.defaultHeaders.filter (fun d => !(h.name == d.name)) = c.defaultHeaders :=
    List.filter_eq_self.2 fun d hd => by simpa using hnew d hd
  simp [firstRequest, hkept]

/-- What a chain carries beyond the one with nothing attached was attached to it. -/
theorem mem_of_carriesAt (hcarries : CarriesAt h (c.get net url extra).sent
    (c.beside net url extra []) j) : h ∈ extra := by
  rw [sent_get] at hcarries
  obtain hnone | ⟨u, steps, -, hchain⟩ := c.beside_cases net url extra
  · rw [hnone] at hcarries
    exact absurd hcarries not_carriesAt_nil
  · rw [hchain, hchain] at hcarries
    have hlt := count_lt_of_carriesAt (by simp) id hcarries
    by_contra hh
    exact absurd hlt (Nat.not_lt.2 (c.count_firstRequest_le u hh))

/-- A header that is dropped for good does not leave the host and port of the URL. -/
theorem exists_staysAt_of_carriesAt (hdrops : net.DropsForGood h.name)
    (hcarries : CarriesAt h (c.get net url extra).sent (c.beside net url extra []) j) :
    ∃ u, Url.parse url = .ok u ∧ StaysAt u (c.get net url extra).sent j := by
  rw [sent_get] at hcarries ⊢
  obtain hnone | ⟨u, steps, hurl, hchain⟩ := c.beside_cases net url extra
  · rw [hnone] at hcarries
    exact absurd hcarries not_carriesAt_nil
  · rw [hchain, hchain] at hcarries
    refine ⟨u, hurl, ?_⟩
    rw [hchain]
    refine (staysAt_of_carriesAt hdrops ?_ ?_ ?_ hcarries).2
    · rfl
    · simp
    · exact fun _ => isSameHost_iff.2 ⟨rfl, rfl⟩

/-- Every chain begins at its URL. -/
theorem staysAt_zero_sent_get (hurl : Url.parse url = .ok u) :
    StaysAt u (c.get net url extra).sent 0 := by
  intro i hi q hq
  obtain rfl : i = 0 := Nat.le_zero.1 hi
  rw [← List.head?_eq_getElem?] at hq
  obtain ⟨u', hurl', rfl⟩ := head?_sent_get hq
  obtain rfl : u = u' := Except.ok.inj (hurl.symm.trans hurl')
  exact ⟨rfl, rfl⟩

/-- A header of the caller's that is kept at the host is on all requests up to the one that leaves
it. -/
theorem carriesAt_sent_get (hkeeps : net.KeepsAtHost h.name) (hname : h.name ≠ "referer")
    (hnew : ∀ d ∈ c.defaultHeaders, h.name ≠ d.name) (hurl : Url.parse url = .ok u)
    (hj : j < (c.get net url [h]).sent.length) (hstays : StaysAt u (c.get net url [h]).sent j) :
    CarriesAt h (c.get net url [h]).sent (c.beside net url [h] []) j := by
  rw [sent_get] at hj hstays ⊢
  obtain hnone | ⟨u', steps, hurl', hchain⟩ := c.beside_cases net url [h]
  · simp [hnone] at hj
  · obtain rfl : u = u' := Except.ok.inj (hurl.symm.trans hurl')
    rw [hchain] at hj hstays ⊢
    rw [hchain]
    have hlt := c.count_firstRequest_lt u hnew
    exact carriesAt_of_staysAt hkeeps hname hlt rfl hlt (by simp) hj hstays

end Client

end Prelaunch.Http
