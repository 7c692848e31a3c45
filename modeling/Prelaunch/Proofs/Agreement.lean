import Mathlib.Data.List.Forall2
import Prelaunch.Proofs.Action

/-!
Two runs side by side. Their requests may differ in headers that are related, and what they tell is
compared only where it is seen; all else is the same in both. Each way to put actions together keeps
two runs side by side, and so does a chain of redirects if no host tells related headers apart.
-/

namespace Prelaunch

/-- Results with related values, or with one and the same error. -/
inductive Alike {ε α β : Type} (S : α → β → Prop) : Except ε α → Except ε β → Prop where
  | ok {a b} (h : S a b) : Alike S (.ok a) (.ok b)
  | error (e) : Alike S (.error e) (.error e)

theorem Alike.refl {ε α : Type} {S : α → α → Prop} (hrefl : ∀ a, S a a) (r : Except ε α) :
    Alike S r r := by
  cases r with
  | ok a => exact .ok (hrefl a)
  | error e => exact .error e

theorem Alike.eq {ε α : Type} {r s : Except ε α} (h : Alike Eq r s) : r = s := by
  cases h with
  | ok h => rw [h]
  | error => rfl

theorem optionRel_refl {α : Type} {S : α → α → Prop} (hrefl : ∀ a, S a a) (o : Option α) :
    Option.Rel S o o := by
  cases o with
  | none => exact .none
  | some a => exact .some (hrefl a)

theorem isSome_eq_of_rel {α β : Type} {S : α → β → Prop} {o : Option α} {o' : Option β}
    (h : Option.Rel S o o') : o.isSome = o'.isSome := by
  cases h <;> rfl

namespace Http

variable {H : Header → Header → Prop} {net : Network} {first other r s : Request} {hop : Hop}
  {before : List Hop} {extra extra' : List Header}

/-- Requests for one URL with related headers. -/
structure Request.Alike (H : Header → Header → Prop) (r s : Request) : Prop where
  url : r.url = s.url
  headers : List.Forall₂ H r.headers s.headers

/-- Exchanges with one outcome and related requests. -/
structure Exchange.Alike (H : Header → Header → Prop) (e e' : Exchange) : Prop where
  outcome : e.outcome = e'.outcome
  sent : List.Forall₂ (Request.Alike H) e.sent e'.sent

theorem Request.alike_eq : Request.Alike Eq = Eq := by
  funext r s
  refine propext ⟨fun ⟨hurl, hheaders⟩ => ?_, fun heq => heq ▸ ⟨rfl, List.forall₂_refl _⟩⟩
  rw [List.forall₂_eq_eq_eq] at hheaders
  cases r
  cases s
  simp_all

/-- Header fields in the place of each other, told apart by no check on names and by no host. -/
structure Network.IsVeil (net : Network) (H : Header → Header → Prop) : Prop where
  refl : ∀ h, H h h
  name : ∀ {h h'}, H h h' → h.name = h'.name
  reply : ∀ patience {r s}, Request.Alike H r s → net.reply patience r = net.reply patience s

theorem Network.isVeil_eq (net : Network) : net.IsVeil Eq where
  refl _ := rfl
  name heq := heq ▸ rfl
  reply patience r s halike := by
    rw [Request.alike_eq] at halike
    rw [halike]

theorem Network.IsVeil.send (hveil : net.IsVeil H) (patience : Patience)
    (h : Request.Alike H r s) : net.send patience r = net.send patience s :=
  hveil.reply patience ⟨congrArg Url.plain h.url, h.headers⟩

namespace Client

theorem forall₂_filter_name (hveil : net.IsVeil H) (keep : String → Bool)
    {headers headers' : List Header} (h : List.Forall₂ H headers headers') :
    List.Forall₂ H (headers.filter (keep ·.name)) (headers'.filter (keep ·.name)) := by
  refine List.rel_filter (fun d d' hd => ?_) h
  show keep d.name = true ↔ keep d'.name = true
  rw [hveil.name hd]

theorem any_name_eq (hveil : net.IsVeil H) {headers headers' : List Header}
    (h : List.Forall₂ H headers headers') (name : String) :
    headers.any (·.name == name) = headers'.any (·.name == name) := by
  induction h with
  | nil => rfl
  | cons hd _ ih => rw [List.any_cons, List.any_cons, ih, hveil.name hd]

theorem alike_firstRequest (hveil : net.IsVeil H) (c : Client) (u : Url)
    (h : List.Forall₂ H extra extra') :
    Request.Alike H (c.firstRequest u extra) (c.firstRequest u extra') where
  url := rfl
  headers := by
    -- the names of the headers decide which default ones stay, so these are the same
    have hkept : (c.defaultHeaders.filter fun d => !extra.any (·.name == d.name)) =
        c.defaultHeaders.filter fun d => !extra'.any (·.name == d.name) := by
      simp only [any_name_eq hveil h]
    unfold firstRequest
    rw [hkept]
    exact List.rel_append (List.forall₂_same.2 fun d _ => hveil.refl d) h

theorem alike_redirected (hveil : net.IsVeil H) (hfirst : Request.Alike H first other) (hop : Hop)
    (before : List Hop) :
    Request.Alike H (redirected net first hop before) (redirected net other hop before) := by
  refine ⟨rfl, ?_⟩
  have hkept : List.Forall₂ H (first.headers.filter (net.carries (hop :: before) ·.name))
      (other.headers.filter (net.carries (hop :: before) ·.name)) :=
    forall₂_filter_name hveil (net.carries (hop :: before)) hfirst.headers
  unfold redirected
  cases referer? hop with
  | none => exact hkept
  | some referer =>
      refine List.rel_append (forall₂_filter_name hveil (· != "referer") hkept) ?_
      exact .cons (hveil.refl referer) .nil

/-- Two chains are answered alike, so they are sent around alike. -/
theorem alike_follow (hveil : net.IsVeil H) (hfirst : Request.Alike H first other)
    (patience : Patience) (budget : Nat) (h : Request.Alike H r s) :
    Exchange.Alike H (follow net patience first budget before r)
      (follow net patience other budget before s) := by
  induction budget generalizing before r s with
  | zero =>
      unfold follow
      rw [hveil.send patience h, hfirst.url, h.url]
      cases net.send patience s with
      | refused | unconnected => exact ⟨rfl, .nil⟩
      | dropped | unanswered => exact ⟨rfl, .cons h .nil⟩
      | answered response =>
          dsimp only
          split <;> exact ⟨rfl, .cons h .nil⟩
  | succ budget ih =>
      unfold follow
      rw [hveil.send patience h, hfirst.url, h.url]
      cases net.send patience s with
      | refused | unconnected => exact ⟨rfl, .nil⟩
      | dropped | unanswered => exact ⟨rfl, .cons h .nil⟩
      | answered response =>
          dsimp only
          split
          · exact ⟨rfl, .cons h .nil⟩
          · split
            · obtain ⟨houtcome, hsent⟩ := ih (alike_redirected hveil hfirst _ before)
              exact ⟨houtcome, .cons h hsent⟩
            · exact ⟨rfl, .cons h .nil⟩

theorem alike_get (hveil : net.IsVeil H) (c : Client) (url : String)
    (h : List.Forall₂ H extra extra') :
    Exchange.Alike H (c.get net url extra) (c.get net url extra') := by
  unfold get
  cases Url.parse url with
  | error e => exact ⟨rfl, .nil⟩
  | ok u =>
      dsimp only
      split
      · have hfirst := alike_firstRequest hveil c u h
        exact alike_follow hveil hfirst c.patience c.maxRedirects hfirst
      · exact ⟨rfl, .nil⟩

end Client

end Http

/-- Two runs at a moment: the same files, related requests, and the same told as far as it is
seen. -/
structure Progress.Alike (H : Header → Header → Prop) (isSeen : Event → Bool) (p q : Progress) :
    Prop where
  files : p.files = q.files
  sent : List.Forall₂ (Http.Request.Alike H) p.sent q.sent
  events : p.events.filter isSeen = q.events.filter isSeen

theorem Progress.Alike.refl {H : Header → Header → Prop} (hrefl : ∀ h, H h h)
    (isSeen : Event → Bool) (p : Progress) : Progress.Alike H isSeen p p where
  files := rfl
  sent := List.forall₂_same.2 fun _ _ => ⟨rfl, List.forall₂_same.2 fun h _ => hrefl h⟩
  events := rfl

namespace Action

/-- Side by side, two actions come to related results and stay side by side. -/
def Agree {ε α β : Type} (H : Header → Header → Prop) (isSeen : Event → Bool) (S : α → β → Prop)
    (x : Action ε α) (y : Action ε β) : Prop :=
  ∀ p q, Progress.Alike H isSeen p q →
    Prelaunch.Alike S (x.run p).1 (y.run q).1 ∧
      Progress.Alike H isSeen (x.run p).2 (y.run q).2

namespace Agree

variable {ε ε' α β γ δ : Type} {H : Header → Header → Prop} {isSeen : Event → Bool}
  {S : α → β → Prop} {T : γ → δ → Prop}

theorem pure {a : α} {b : β} (h : S a b) :
    Agree H isSeen S (Pure.pure a : Action ε α) (Pure.pure b) := fun _ _ hpq => ⟨.ok h, hpq⟩

theorem throw (e : ε) :
    Agree H isSeen S (MonadExcept.throw e : Action ε α) (MonadExcept.throw e) :=
  fun _ _ hpq => ⟨.error e, hpq⟩

/-- What stands after an error is never reached. -/
theorem throw_bind (e : ε) (f : α → Action ε γ) (g : α → Action ε δ) :
    Agree H isSeen T (MonadExcept.throw e >>= f) (MonadExcept.throw e >>= g) :=
  fun _ _ hpq => ⟨.error e, hpq⟩

theorem bind {x : Action ε α} {y : Action ε β} {f : α → Action ε γ} {g : β → Action ε δ}
    (hxy : Agree H isSeen S x y) (hfg : ∀ a b, S a b → Agree H isSeen T (f a) (g b)) :
    Agree H isSeen T (x >>= f) (y >>= g) := by
  intro p q hpq
  obtain ⟨hresult, hafter⟩ := hxy p q hpq
  rw [run_bind, run_bind]
  rcases hx : x.run p with ⟨r, p'⟩
  rcases hy : y.run q with ⟨s, q'⟩
  rw [hx, hy] at hresult hafter
  cases hresult with
  | ok h => exact hfg _ _ h p' q' hafter
  | error e => exact ⟨.error e, hafter⟩

theorem within (wrap : ε' → ε) {x : Action ε' α} {y : Action ε' β}
    (hxy : Agree H isSeen S x y) : Agree H isSeen S (x.within wrap) (y.within wrap) := by
  intro p q hpq
  obtain ⟨hresult, hafter⟩ := hxy p q hpq
  rw [run_within, run_within]
  rcases hx : x.run p with ⟨r, p'⟩
  rcases hy : y.run q with ⟨s, q'⟩
  rw [hx, hy] at hresult hafter
  cases hresult with
  | ok h => exact ⟨.ok h, hafter⟩
  | error e => exact ⟨.error (wrap e), hafter⟩

theorem orFail (wrap : ε' → ε) {r : Except ε' α} {s : Except ε' β} (h : Prelaunch.Alike S r s) :
    Agree H isSeen S (Action.orFail wrap r) (Action.orFail wrap s) := by
  cases h with
  | ok h => exact .pure h
  | error e => exact .throw (wrap e)

theorem orFail_self (wrap : ε' → ε) (r : Except ε' α) :
    Agree H isSeen Eq (Action.orFail wrap r) (Action.orFail wrap r) :=
  .orFail wrap (.refl (fun _ => rfl) r)

theorem tell (level : Level) (message : String) (fields : List (String × String)) :
    Agree H isSeen Eq (Action.tell level message fields : Action ε Unit)
      (Action.tell level message fields) := by
  intro p q ⟨hfiles, hsent, hevents⟩
  refine ⟨.ok rfl, hfiles, hsent, ?_⟩
  rw [run_tell, run_tell, List.filter_append, List.filter_append, hevents]

theorem files : Agree H isSeen Eq (Action.files : Action ε FileTree) Action.files :=
  fun _ _ hpq => ⟨.ok hpq.files, hpq⟩

theorem setFiles (t : FileTree) :
    Agree H isSeen Eq (Action.setFiles t : Action ε Unit) (Action.setFiles t) :=
  fun _ _ hpq => ⟨.ok rfl, rfl, hpq.sent, hpq.events⟩

theorem request {m : Machine} (hveil : m.network.IsVeil H) (c : Http.Client) (url : String)
    {extra extra' : List Header} (h : List.Forall₂ H extra extra') :
    Agree H isSeen Eq (Action.request m c url extra) (Action.request m c url extra') := by
  intro p q ⟨hfiles, hsent, hevents⟩
  obtain ⟨houtcome, hchains⟩ := Http.Client.alike_get hveil c url h
  rw [run_request, run_request, houtcome]
  exact ⟨.refl (fun _ => rfl) _, hfiles, List.rel_append hsent hchains, hevents⟩

/-- A loop over one list, each step of which agrees. -/
theorem forM {f g : α → Action ε Unit} (hfg : ∀ a, Agree H isSeen Eq (f a) (g a)) (as : List α) :
    Agree H isSeen Eq (as.forM f) (as.forM g) := by
  induction as with
  | nil => exact .pure rfl
  | cons a as ih => exact .bind (hfg a) fun _ _ _ => ih

theorem mapM {f g : α → Action ε β} (hfg : ∀ a, Agree H isSeen Eq (f a) (g a)) (as : List α) :
    Agree H isSeen Eq (as.mapM f) (as.mapM g) := by
  induction as with
  | nil => exact .pure rfl
  | cons a as ih =>
      rw [List.mapM_cons, List.mapM_cons]
      refine .bind (hfg a) fun b _ hb => ?_
      obtain rfl := hb
      refine .bind ih fun bs _ hbs => ?_
      obtain rfl := hbs
      exact .pure rfl

end Agree

end Action

end Prelaunch
