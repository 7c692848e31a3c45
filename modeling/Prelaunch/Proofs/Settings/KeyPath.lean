import Prelaunch.Settings.Override
import Prelaunch.Proofs.Credential

/-!
Which settings plain names spell. An identifier is a path of one key, and two identifiers with a dot
between them are a path of two.
-/

namespace Prelaunch

/-! How readers run. -/

namespace Text.Reader

variable {α β : Type} {r : Reader α} {cs more : List Char}

theorem bind_apply (r : Reader α) (f : α → Reader β) (cs : List Char) :
    (r >>= f) cs = (r cs).bind fun (a, more) => f a more := rfl

theorem bind_of_eq_some {a : α} (h : r cs = some (a, more)) (f : α → Reader β) :
    (r >>= f) cs = f a more := by
  rw [bind_apply, h]
  rfl

theorem map_of_eq_some {a : α} (h : r cs = some (a, more)) (f : α → β) :
    (f <$> r) cs = some (f a, more) := by
  show ((r cs).bind fun (a, more) => some (f a, more)) = _
  rw [h]
  rfl

theorem orElse_of_eq_some {x : α × List Char} (h : r cs = some x) (s : Reader α) :
    (r <|> s) cs = some x := by
  show (r cs <|> s cs) = _
  rw [h]
  rfl

theorem takeWhile1_append {p : Char → Bool} {word rest : List Char} (hne : word ≠ [])
    (hall : ∀ c ∈ word, p c = true) (hstop : ∀ c ∈ rest.head?, p c = false) :
    takeWhile1 p (word ++ rest) = some (word, rest) := by
  have htake : (word ++ rest).takeWhile p = word := by
    rw [List.takeWhile_append_of_pos hall]
    cases rest with
    | nil => simp
    | cons c rest => simp [hstop c rfl]
  have hdrop : (word ++ rest).dropWhile p = rest := by
    rw [List.dropWhile_append_of_pos hall]
    cases rest with
    | nil => rfl
    | cons c rest => simp [hstop c rfl]
  have htaken : takeWhile p (word ++ rest) = some (word, rest) := by
    show some ((word ++ rest).takeWhile p, (word ++ rest).dropWhile p) = _
    rw [htake, hdrop]
  unfold takeWhile1
  rw [bind_of_eq_some htaken, if_neg (by simpa using hne)]
  rfl

theorem char_cons (c : Char) (rest : List Char) : char c (c :: rest) = some ((), rest) := by
  show ((satisfying (· == c)) (c :: rest)).bind _ = _
  have hsat : satisfying (· == c) (c :: rest) = some (c, rest) := by
    show (if (c == c) = true then _ else _ : Reader Char) (c :: rest) = _
    rw [if_pos (beq_self_eq_true c)]
    rfl
  rw [hsat]
  rfl

end Text.Reader

namespace Settings

open Text

/-- A name of letters, digits, underscores and hyphens. -/
structure IsIdentifier (s : String) : Prop where
  ne_nil : s.toList ≠ []
  all : ∀ c ∈ s.toList, KeyPath.isNameChar c = true

theorem isIdentifier_iff {s : String} :
    IsIdentifier s ↔ s.toList ≠ [] ∧ s.toList.all KeyPath.isNameChar = true :=
  ⟨fun h => ⟨h.ne_nil, List.all_eq_true.2 h.all⟩, fun h => ⟨h.1, List.all_eq_true.1 h.2⟩⟩

instance (s : String) : Decidable (IsIdentifier s) := decidable_of_iff _ isIdentifier_iff.symm

namespace KeyPath

variable {s t : String} {rest : List Char}

theorem name_append (h : IsIdentifier s) (hstop : ∀ c ∈ rest.head?, isNameChar c = false) :
    name (s.toList ++ rest) = some (s, rest) := by
  have hword := Reader.takeWhile1_append h.ne_nil h.all hstop
  unfold name
  rw [Reader.map_of_eq_some hword, String.ofList_toList]

theorem name_of_isIdentifier (h : IsIdentifier s) : name s.toList = some (s, []) := by
  have hname : name (s.toList ++ []) = some (s, []) := name_append h (by simp)
  rwa [List.append_nil] at hname

theorem step_dot (h : IsIdentifier s) : step ('.' :: s.toList) = some (.key s, []) := by
  unfold step
  refine Reader.orElse_of_eq_some ?_ _
  rw [Reader.bind_of_eq_some (Reader.char_cons '.' s.toList),
    Reader.bind_of_eq_some (name_of_isIdentifier h)]
  rfl

theorem many_nil : Reader.many step [] = some ([], []) := rfl

theorem many_dot (h : IsIdentifier s) :
    Reader.many step ('.' :: s.toList) = some ([.key s], []) := by
  show Reader.repeated step (s.toList.length + 1) ('.' :: s.toList) = _
  unfold Reader.repeated
  refine Reader.orElse_of_eq_some ?_ _
  rw [Reader.bind_of_eq_some (step_dot h)]
  have hrest : Reader.repeated step s.toList.length [] = some ([], []) := by
    cases s.toList.length <;> rfl
  rw [Reader.bind_of_eq_some hrest]
  rfl

/-- An identifier is a path of one key. -/
theorem parse_of_isIdentifier (h : IsIdentifier s) : parse s = ⟨s, []⟩ := by
  have hreader : reader s.toList = some (⟨s, []⟩, []) := by
    unfold reader
    rw [Reader.bind_of_eq_some (name_of_isIdentifier h), Reader.bind_of_eq_some many_nil]
    rfl
  unfold parse Reader.run?
  rw [hreader]
  rfl

/-- Two identifiers with a dot between them are a path of two keys. -/
theorem parse_dotted (hs : IsIdentifier s) (ht : IsIdentifier t) :
    parse (s ++ "." ++ t) = ⟨s, [.key t]⟩ := by
  have hchars : (s ++ "." ++ t).toList = s.toList ++ '.' :: t.toList := by
    simp
  have hname : name (s.toList ++ '.' :: t.toList) = some (s, '.' :: t.toList) :=
    name_append hs fun c hc => by
      obtain rfl := Option.some.inj hc
      decide
  have hreader : reader (s ++ "." ++ t).toList = some (⟨s, [.key t]⟩, []) := by
    unfold reader
    rw [hchars, Reader.bind_of_eq_some hname, Reader.bind_of_eq_some (many_dot ht)]
    rfl
  unfold parse Reader.run?
  rw [hreader]
  rfl

end KeyPath

/-! Names of overrides. -/

namespace Override

theorem dotted_eq_self {cs : List Char} (h : ¬['_', '_'] <:+: cs) : dotted cs = cs := by
  induction cs using dotted.induct with
  | case1 rest ih => exact absurd ⟨[], rest, rfl⟩ h
  | case2 c rest hnot ih =>
      have hrest : ¬['_', '_'] <:+: rest := fun hrest => h (hrest.trans (List.suffix_cons c rest).isInfix)
      rw [dotted, ih hrest]
      exact hnot
  | case3 => rfl

theorem dotted_append {before after : List Char} (hbefore : '_' ∉ before)
    (hafter : ¬['_', '_'] <:+: after) :
    dotted (before ++ '_' :: '_' :: after) = before ++ '.' :: after := by
  induction before with
  | nil =>
      show '.' :: dotted after = _
      rw [dotted_eq_self hafter]
      rfl
  | cons c before ih =>
      obtain ⟨hc, hbefore⟩ := not_or.1 (List.mem_cons.not.1 hbefore)
      show dotted (c :: (before ++ '_' :: '_' :: after)) = _
      rw [dotted, ih hbefore]
      · rfl
      · rintro rest rfl
        exact absurd rfl hc

/-- The name of the variable that overrides a key of a section, in lower case. -/
def nameOf (group key : String) : String := start ++ group ++ "__" ++ key

theorem path?_of_lowercase_eq {name group key : String} (hgroup : '_' ∉ group.toList)
    (hkey : ¬['_', '_'] <:+: key.toList) (h : Text.lowercase name = nameOf group key) :
    path? name = some (group ++ "." ++ key) := by
  have hdrop : dropStart? start (Text.lowercase name) = some (group ++ "__" ++ key) := by
    rw [Text.dropStart?_eq_some, h, nameOf]
    simp only [String.append_assoc]
  have hdotted : dotted (group ++ "__" ++ key).toList = (group ++ "." ++ key).toList := by
    have happend := dotted_append hgroup hkey
    simpa using happend
  rw [path?, hdrop, Option.map_some, hdotted, String.ofList_toList]

end Override

end Settings

end Prelaunch
