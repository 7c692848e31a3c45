/-!
Computations that may fail. Where a sequence of steps has come to something, each of its steps has.
-/

namespace Prelaunch

variable {ε α β : Type}

theorem bind_eq_ok {x : Except ε α} {f : α → Except ε β} {b : β} :
    x >>= f = .ok b ↔ ∃ a, x = .ok a ∧ f a = .ok b := by
  cases x <;> simp [bind, Except.bind]

theorem bind_eq_error {x : Except ε α} {f : α → Except ε β} {e : ε} :
    x >>= f = .error e ↔ x = .error e ∨ ∃ a, x = .ok a ∧ f a = .error e := by
  cases x <;> simp [bind, Except.bind]

theorem map_eq_ok {x : Except ε α} {f : α → β} {b : β} :
    x.map f = .ok b ↔ ∃ a, x = .ok a ∧ f a = b := by
  cases x <;> simp [Except.map]

theorem map_eq_error {x : Except ε α} {f : α → β} {e : ε} : x.map f = .error e ↔ x = .error e := by
  cases x <;> simp [Except.map]

theorem exists_of_mem_mapM {f : α → Except ε β} {as : List α} {bs : List β}
    (h : as.mapM f = .ok bs) {b : β} (hb : b ∈ bs) : ∃ a ∈ as, f a = .ok b := by
  induction as generalizing bs with
  | nil =>
      obtain rfl := Except.ok.inj h
      cases hb
  | cons a as ih =>
      rw [List.mapM_cons] at h
      obtain ⟨first, ha, h⟩ := bind_eq_ok.1 h
      obtain ⟨others, has, h⟩ := bind_eq_ok.1 h
      obtain rfl : first :: others = bs := Except.ok.inj h
      rcases List.mem_cons.1 hb with rfl | hb
      · exact ⟨a, List.mem_cons_self, ha⟩
      · obtain ⟨a', ha', hf⟩ := ih has hb
        exact ⟨a', List.mem_cons_of_mem a ha', hf⟩

theorem exists_mem_of_mapM {f : α → Option β} {as : List α} {bs : List β}
    (h : as.mapM f = some bs) {a : α} (ha : a ∈ as) : ∃ b ∈ bs, f a = some b := by
  induction as generalizing bs with
  | nil => cases ha
  | cons first others ih =>
      rw [List.mapM_cons] at h
      obtain ⟨b, hb, h⟩ := Option.bind_eq_some_iff.1 h
      obtain ⟨bs', hbs', h⟩ := Option.bind_eq_some_iff.1 h
      obtain rfl : b :: bs' = bs := Option.some.inj h
      rcases List.mem_cons.1 ha with rfl | ha
      · exact ⟨b, List.mem_cons_self, hb⟩
      · obtain ⟨b', hmem, hf⟩ := ih hbs' ha
        exact ⟨b', List.mem_cons_of_mem b hmem, hf⟩

theorem exists_of_mapM_eq_ok {f : α → Except ε β} {as : List α} {bs : List β}
    (h : as.mapM f = .ok bs) {a : α} (ha : a ∈ as) : ∃ b, f a = .ok b := by
  induction as generalizing bs with
  | nil => cases ha
  | cons first others ih =>
      rw [List.mapM_cons] at h
      obtain ⟨b, hb, h⟩ := bind_eq_ok.1 h
      obtain ⟨bs', hbs', -⟩ := bind_eq_ok.1 h
      rcases List.mem_cons.1 ha with rfl | ha
      · exact ⟨b, hb⟩
      · exact ih hbs' ha

theorem mapM_eq_ok_of_forall {f : α → Except ε β} {g : α → β} {as : List α}
    (h : ∀ a ∈ as, f a = .ok (g a)) : as.mapM f = .ok (as.map g) := by
  induction as with
  | nil => rfl
  | cons a as ih =>
      rw [List.mapM_cons, h a List.mem_cons_self, ih fun x hx => h x (List.mem_cons_of_mem a hx)]
      rfl

/-- A sequence fails with the first of its steps that fails. -/
theorem mapM_eq_error_iff {f : α → Except ε β} {as : List α} {e : ε} :
    as.mapM f = .error e ↔ ∃ before a after, as = before ++ a :: after ∧
      (∀ x ∈ before, ∃ b, f x = .ok b) ∧ f a = .error e := by
  constructor
  · intro h
    induction as with
    | nil => cases h
    | cons a as ih =>
        rw [List.mapM_cons] at h
        rcases bind_eq_error.1 h with ha | ⟨b, ha, h⟩
        · exact ⟨[], a, as, rfl, by simp, ha⟩
        · rcases bind_eq_error.1 h with has | ⟨bs, -, h⟩
          · obtain ⟨before, x, after, rfl, hbefore, hx⟩ := ih has
            refine ⟨a :: before, x, after, rfl, ?_, hx⟩
            exact List.forall_mem_cons.2 ⟨⟨b, ha⟩, hbefore⟩
          · cases h
  · rintro ⟨before, a, after, rfl, hbefore, ha⟩
    induction before with
    | nil =>
        rw [List.nil_append, List.mapM_cons, ha]
        rfl
    | cons first before ih =>
        obtain ⟨⟨b, hfirst⟩, hothers⟩ := List.forall_mem_cons.1 hbefore
        rw [List.cons_append, List.mapM_cons, hfirst, ih hothers]
        rfl

end Prelaunch
