import Prelaunch.Action

/-!
How actions run. Each primitive has one equation for its result and the progress it leaves, and a
sequence is opened by `run_bind`; no later proof unfolds the monad itself.
-/

namespace Prelaunch.Action

variable {ε ε' α β : Type}

@[simp] theorem run_pure (a : α) (p : Progress) : (pure a : Action ε α).run p = (.ok a, p) := rfl

@[simp] theorem run_throw (e : ε) (p : Progress) :
    (throw e : Action ε α).run p = (.error e, p) := rfl

theorem run_bind (x : Action ε α) (f : α → Action ε β) (p : Progress) :
    (x >>= f).run p = match x.run p with
      | (.ok a, q) => (f a).run q
      | (.error e, q) => (.error e, q) := by
  change ExceptT.bindCont f (x.run p).1 (x.run p).2 = _
  rcases x.run p with ⟨_ | _, q⟩ <;> rfl

theorem run_bind_of_ok {x : Action ε α} {p q : Progress} {a : α} (h : x.run p = (.ok a, q))
    (f : α → Action ε β) : (x >>= f).run p = (f a).run q := by
  rw [run_bind, h]

theorem run_bind_of_error {x : Action ε α} {p q : Progress} {e : ε}
    (h : x.run p = (.error e, q)) (f : α → Action ε β) : (x >>= f).run p = (.error e, q) := by
  rw [run_bind, h]

@[simp] theorem run_tell (level : Level) (message : String) (fields : List (String × String))
    (p : Progress) :
    (tell level message fields : Action ε Unit).run p =
      (.ok (), { p with events := p.events ++ [⟨level, message, fields⟩] }) := rfl

@[simp] theorem run_files (p : Progress) : (files : Action ε FileTree).run p = (.ok p.files, p) :=
  rfl

@[simp] theorem run_setFiles (t : FileTree) (p : Progress) :
    (setFiles t : Action ε Unit).run p = (.ok (), { p with files := t }) := rfl

@[simp] theorem run_orFail_ok (wrap : ε' → ε) (a : α) (p : Progress) :
    (orFail wrap (.ok a) : Action ε α).run p = (.ok a, p) := rfl

@[simp] theorem run_orFail_error (wrap : ε' → ε) (e : ε') (p : Progress) :
    (orFail wrap (.error e) : Action ε α).run p = (.error (wrap e), p) := rfl

theorem run_within (wrap : ε' → ε) (x : Action ε' α) (p : Progress) :
    (within wrap x).run p = match x.run p with
      | (.ok a, q) => (.ok a, q)
      | (.error e, q) => (.error (wrap e), q) := by
  change ((x.run p).1.mapError wrap, (x.run p).2) = _
  rcases x.run p with ⟨_ | _, q⟩ <;> rfl

theorem run_request (m : Machine) (c : Http.Client) (url : String) (extra : List Header)
    (p : Progress) :
    (request m c url extra).run p =
      ((c.get m.network url extra).outcome,
        { p with sent := p.sent ++ (c.get m.network url extra).sent }) := by
  change (orFail id (c.get m.network url extra).outcome).run
    { p with sent := p.sent ++ (c.get m.network url extra).sent } = _
  cases (c.get m.network url extra).outcome <;> rfl

/-- A sequence that gives a result has come through both of its parts. -/
theorem run_bind_eq_ok {x : Action ε α} {f : α → Action ε β} {p : Progress} {b : β}
    (h : ((x >>= f).run p).1 = .ok b) : ∃ a q, x.run p = (.ok a, q) ∧ ((f a).run q).1 = .ok b := by
  rw [run_bind] at h
  rcases hx : x.run p with ⟨e | a, q⟩
  · rw [hx] at h
    cases h
  · rw [hx] at h
    exact ⟨a, q, rfl, h⟩

theorem run_orFail_eq_ok {wrap : ε' → ε} {r : Except ε' α} {p : Progress} {a : α}
    (h : ((orFail wrap r).run p).1 = .ok a) : r = .ok a := by
  cases r with
  | error e => cases h
  | ok a' => exact congrArg _ (Except.ok.inj h)

/-- A loop over actions that only tell never fails and only tells. -/
theorem run_forM_of_tells {f : α → Action ε Unit}
    (hf : ∀ a p, ∃ events, (f a).run p = (.ok (), { p with events })) (as : List α)
    (p : Progress) : ∃ events, (as.forM f).run p = (.ok (), { p with events }) := by
  induction as generalizing p with
  | nil => exact ⟨p.events, rfl⟩
  | cons a as ih =>
      obtain ⟨told, htold⟩ := hf a p
      change ∃ events, (f a >>= fun _ => as.forM f).run p = (.ok (), { p with events })
      rw [run_bind_of_ok htold]
      exact ih _

/-! Actions that change neither the files nor what has been sent. -/

/-- Whatever becomes of the action, files and requests are as they were before it. -/
def OnlyTells (x : Action ε α) : Prop :=
  ∀ p, (x.run p).2.files = p.files ∧ (x.run p).2.sent = p.sent

namespace OnlyTells

theorem pure (a : α) : OnlyTells (Pure.pure a : Action ε α) := fun _ => ⟨rfl, rfl⟩

theorem tell (level : Level) (message : String) (fields : List (String × String)) :
    OnlyTells (Action.tell level message fields : Action ε Unit) := fun _ => ⟨rfl, rfl⟩

theorem files : OnlyTells (Action.files : Action ε FileTree) := fun _ => ⟨rfl, rfl⟩

theorem orFail (wrap : ε' → ε) (r : Except ε' α) : OnlyTells (Action.orFail wrap r) := by
  intro p
  cases r <;> exact ⟨rfl, rfl⟩

theorem bind {x : Action ε α} {f : α → Action ε β} (hx : OnlyTells x)
    (hf : ∀ a, OnlyTells (f a)) : OnlyTells (x >>= f) := by
  intro p
  have h := hx p
  rw [run_bind]
  rcases hrun : x.run p with ⟨e | a, q⟩
  · simpa [hrun] using h
  · rw [hrun] at h
    exact ⟨(hf a q).1.trans h.1, (hf a q).2.trans h.2⟩

end OnlyTells

end Prelaunch.Action
