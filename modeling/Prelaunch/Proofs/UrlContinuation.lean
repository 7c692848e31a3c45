import Mathlib.Data.List.DropRight
import Prelaunch.Proofs.UrlAuthority

/-!
Texts that continue the text of a web URL where a new part begins. They name a URL of the same host
and port, if they name one at all: what the base has as its authority is the authority of the longer
text too, but for blanks at the end of the base, and with such blanks no host or port can be read.
-/

namespace Prelaunch.Url

variable {scheme : String} {c : Char} {cs more rest blanks : List Char} {u v : Url}

theorem dropWhile_append_of_ne_nil {p : Char → Bool} (h : cs.dropWhile p ≠ []) :
    (cs ++ more).dropWhile p = cs.dropWhile p ++ more := by
  rw [List.dropWhile_append]
  simp [h]

theorem takeWhile_append_of_ne_nil {p : Char → Bool} (h : cs.dropWhile p ≠ []) :
    (cs ++ more).takeWhile p = cs.takeWhile p := by
  have hjoin : (cs ++ more).takeWhile p ++ (cs.dropWhile p ++ more) =
      cs.takeWhile p ++ (cs.dropWhile p ++ more) := by
    rw [← dropWhile_append_of_ne_nil h, List.takeWhile_append_dropWhile,
      dropWhile_append_of_ne_nil h, ← List.append_assoc, List.takeWhile_append_dropWhile]
  exact List.append_cancel_right hjoin

/-! Blanks around the text. -/

def trimBlanks (cs : List Char) : List Char := (cs.reverse.dropWhile isTrimmed).reverse

theorem clean_eq (s : String) :
    clean s = (trimBlanks (s.toList.dropWhile isTrimmed)).filter (!isDropped ·) := rfl

theorem trimBlanks_append (hlast : cs.getLast? = some c) (hc : isTrimmed c = false)
    (rest : List Char) : trimBlanks (cs ++ rest) = cs ++ trimBlanks rest := by
  obtain ⟨before, rfl⟩ := List.getLast?_eq_some_iff.1 hlast
  unfold trimBlanks
  rw [List.reverse_append, List.dropWhile_append]
  split
  · rename_i hnone
    rw [List.isEmpty_iff.1 hnone]
    simp [hc]
  · simp

/-- The blanks that end a text and would be kept within a longer one, as tabs and line breaks would
not. -/
def endBlanks (s : String) : List Char := (s.toList.rtakeWhile isTrimmed).filter (!isDropped ·)

theorem isTrimmed_of_mem_endBlanks {s : String} (hc : c ∈ endBlanks s) : isTrimmed c = true :=
  List.mem_rtakeWhile_imp (List.mem_filter.1 hc).1

/-- A base may be followed by `blanks ++ more`: a slash ends it, or a new part begins after the
blanks. -/
structure Continues (base blanks more : List Char) : Prop where
  isTrimmed : ∀ c ∈ blanks, isTrimmed c = true
  begins : (blanks = [] ∧ base.getLast? = some '/') ∨
    ∃ c rest, more = c :: rest ∧ endsAuthority true c = true

theorem clean_append_of_slash {base rest : String} (hbase : ∃ before, base = before ++ "/") :
    (clean base).getLast? = some '/' ∧ ∃ more, clean (base ++ rest) = clean base ++ more := by
  obtain ⟨before, rfl⟩ := hbase
  have hcore : ∃ front, (before ++ "/").toList.dropWhile isTrimmed = front ++ ['/'] := by
    rw [String.toList_append, List.dropWhile_append]
    split
    · exact ⟨[], rfl⟩
    · exact ⟨_, rfl⟩
  obtain ⟨front, hcore⟩ := hcore
  have hlast : (front ++ ['/']).getLast? = some '/' := by simp
  have hbase : clean (before ++ "/") = front.filter (!isDropped ·) ++ ['/'] := by
    have htrim := trimBlanks_append hlast rfl []
    rw [List.append_nil] at htrim
    rw [clean_eq, hcore, htrim]
    simp [trimBlanks, isDropped]
  refine ⟨by simp [hbase], (trimBlanks rest.toList).filter (!isDropped ·), ?_⟩
  have hne : (before ++ "/").toList.dropWhile isTrimmed ≠ [] := by
    rw [hcore]
    simp
  rw [hbase, clean_eq, String.toList_append, dropWhile_append_of_ne_nil hne, hcore,
    trimBlanks_append hlast rfl]
  simp [isDropped]

theorem clean_append_of_mark {base rest : String} {mark : Char} {after : List Char}
    (hbase : clean base ≠ []) (hrest : rest.toList = mark :: after)
    (hmark : mark = '/' ∨ mark = '?' ∨ mark = '#') :
    ∃ more, clean (base ++ rest) = clean base ++ (endBlanks base ++ mark :: more) := by
  obtain ⟨htrimmed, hdropped⟩ : isTrimmed mark = false ∧ isDropped mark = false := by
    rcases hmark with rfl | rfl | rfl <;> decide
  have hcore : base.toList.dropWhile isTrimmed ≠ [] := by
    intro hnil
    exact hbase (by rw [clean_eq, hnil]; rfl)
  -- what is trimmed at the start has no part in what is trimmed at the end
  have hends : base.toList.rtakeWhile isTrimmed =
      (base.toList.dropWhile isTrimmed).rtakeWhile isTrimmed := by
    have hkept : (base.toList.dropWhile isTrimmed).reverse.dropWhile isTrimmed ≠ [] := by
      intro hnil
      exact hbase (by rw [clean_eq, trimBlanks, hnil]; rfl)
    have hwhole : base.toList.reverse = (base.toList.dropWhile isTrimmed).reverse ++
        (base.toList.takeWhile isTrimmed).reverse := by
      rw [← List.reverse_append, List.takeWhile_append_dropWhile]
    rw [List.rtakeWhile, hwhole, takeWhile_append_of_ne_nil hkept, List.rtakeWhile]
  rw [clean_eq, clean_eq, String.toList_append, dropWhile_append_of_ne_nil hcore, hrest, endBlanks,
    hends]
  generalize base.toList.dropWhile isTrimmed = core
  have hlast : (core ++ [mark]).getLast? = some mark := by simp
  have htrim : trimBlanks (core ++ mark :: after) = core ++ mark :: trimBlanks after := by
    simpa using trimBlanks_append hlast htrimmed after
  have hsplit : trimBlanks core ++ core.rtakeWhile isTrimmed = core :=
    List.rdropWhile_append_rtakeWhile
  refine ⟨(trimBlanks after).filter (!isDropped ·), ?_⟩
  rw [htrim, ← List.append_assoc, ← List.filter_append, hsplit]
  simp [hdropped]

/-! The scheme. -/

theorem splitScheme?_eq_some : splitScheme? cs = some (scheme, rest) ↔
    cs.head?.any Char.isAlpha = true ∧ cs.dropWhile isSchemeChar = ':' :: rest ∧
      String.ofList ((cs.takeWhile isSchemeChar).map Char.toLower) = scheme := by
  cases cs with
  | nil => simp [splitScheme?]
  | cons c cs =>
      rw [splitScheme?]
      split
      · rename_i after hcolon
        cases halpha : c.isAlpha <;> simp [hcolon, and_comm, halpha]
      · rename_i hcolon
        refine ⟨nofun, ?_⟩
        rintro ⟨-, hrest, -⟩
        exact absurd hrest (hcolon rest)

theorem splitScheme?_append (h : splitScheme? cs = some (scheme, rest)) (more : List Char) :
    splitScheme? (cs ++ more) = some (scheme, rest ++ more) := by
  obtain ⟨halpha, hcolon, hscheme⟩ := splitScheme?_eq_some.1 h
  have hne : cs.dropWhile isSchemeChar ≠ [] := by simp [hcolon]
  have hhead : (cs ++ more).head?.any Char.isAlpha = true := by
    cases cs with
    | nil => cases halpha
    | cons c cs => exact halpha
  refine splitScheme?_eq_some.2 ⟨hhead, ?_, ?_⟩
  · rw [dropWhile_append_of_ne_nil hne, hcolon, List.cons_append]
  · rw [takeWhile_append_of_ne_nil hne, hscheme]

/-! Whole URLs. -/

theorem scheme_fileUrl (host : Host) (cs : List Char) : (fileUrl host cs).scheme = "file" := rfl

theorem scheme_of_parseFile (h : parseFile cs = .ok u) : u.scheme = "file" := by
  unfold parseFile at h
  split at h
  · split at h
    · dsimp only at h
      split at h
      all_goals
        obtain ⟨host, -, h⟩ := bind_eq_ok.1 h
        obtain rfl := Except.ok.inj h
        exact scheme_fileUrl _ _
    · obtain rfl := Except.ok.inj h
      exact scheme_fileUrl _ _
  · obtain rfl := Except.ok.inj h
    exact scheme_fileUrl _ _

theorem scheme_of_parseOther (h : parseOther scheme cs = .ok u) : u.scheme = scheme := by
  unfold parseOther at h
  dsimp only at h
  split at h
  · exact (parseAuthority_eq_ok h).1
  · obtain rfl := Except.ok.inj h
    rfl
  · obtain rfl := Except.ok.inj h
    rfl

theorem scheme_of_parseAfterScheme (h : parseAfterScheme scheme cs = .ok u) :
    u.scheme = scheme := by
  unfold parseAfterScheme at h
  split at h
  · rename_i hfile
    rw [scheme_of_parseFile h, eq_of_beq hfile]
  · split at h
    · exact (parseAuthority_eq_ok h).1
    · exact scheme_of_parseOther h

theorem parseAfterScheme_of_web (hweb : scheme = "http" ∨ scheme = "https") (cs : List Char) :
    parseAfterScheme scheme cs = parseAuthority scheme (cs.dropWhile (isSlash true)) := by
  rcases hweb with rfl | rfl <;> rfl

theorem isSpecialScheme_of_isFetchable (hweb : v.isFetchable = true) :
    isSpecialScheme v.scheme = true := by
  have hschemes : v.scheme = "http" ∨ v.scheme = "https" := by simpa [isFetchable] using hweb
  rcases hschemes with hscheme | hscheme <;> rw [hscheme] <;> rfl

/-- The text of a web URL, from its authority on. -/
theorem parse_eq_ok_of_web {s : String} (h : parse s = .ok v) (hweb : v.isFetchable = true) :
    ∃ rest, splitScheme? (clean s) = some (v.scheme, rest) ∧
      parseAuthority v.scheme (rest.dropWhile (isSlash true)) = .ok v := by
  unfold parse at h
  split at h
  · rename_i scheme rest hsplit
    obtain rfl := scheme_of_parseAfterScheme h
    refine ⟨rest, hsplit, ?_⟩
    rwa [parseAfterScheme_of_web (by simpa [isFetchable] using hweb)] at h
  · cases h

theorem not_endsAuthority_of_isTrimmed (hc : isTrimmed c = true) :
    endsAuthority true c = false := by
  have hle : c.toNat ≤ 0x20 := by simpa [isTrimmed] using hc
  cases hend : endsAuthority true c with
  | false => rfl
  | true =>
      rcases endsAuthority_iff.1 hend with rfl | rfl | rfl | rfl <;> contradiction

theorem Unended.append_blanks (hcs : Unended cs) (hblanks : ∀ c ∈ blanks, isTrimmed c = true) :
    Unended (cs ++ blanks) := by
  intro d hd
  rcases List.mem_append.1 hd with hd | hd
  · exact hcs d hd
  · exact not_endsAuthority_of_isTrimmed (hblanks d hd)

theorem Unended.authorityOf_append {a : List Char} (ha : Unended a)
    (hc : endsAuthority true c = true) (rest : List Char) : authorityOf (a ++ c :: rest) = a := by
  have hall : ∀ d ∈ a, (!endsAuthority true d) = true := fun d hd => by simp [ha d hd]
  rw [authorityOf, List.takeWhile_append_of_pos hall]
  simp [hc]

/-- A continued text that spells a URL has the authority of its base. -/
theorem authorityOf_continued {base : List Char} (hspecial : isSpecialScheme scheme = true)
    (hne : cs ≠ []) (hsuffix : cs <:+ base) (hcontinues : Continues base blanks more)
    (h : Spells scheme (authorityOf (cs ++ (blanks ++ more))) u) :
    authorityOf (cs ++ (blanks ++ more)) = authorityOf cs := by
  by_cases hend : afterAuthority cs = []
  · have hwhole : authorityOf cs = cs := by
      simpa [hend] using authorityOf_append_afterAuthority cs
    have hcs : Unended cs := hwhole ▸ unended_authorityOf cs
    rcases hcontinues.begins with ⟨-, hslash⟩ | ⟨c, rest, rfl, hc⟩
    · have hmem := mem_of_isSuffix_of_getLast? hsuffix hne hslash
      exact absurd (hcs '/' hmem) (by decide)
    · have hunended : Unended (cs ++ blanks) := hcs.append_blanks hcontinues.isTrimmed
      rw [← List.append_assoc, hunended.authorityOf_append hc] at h ⊢
      cases hlast : blanks.getLast? with
      | none => rw [List.getLast?_eq_none_iff.1 hlast, List.append_nil, hwhole]
      | some d =>
          have hblank : d.toNat ≤ 0x20 := by
            simpa [isTrimmed] using hcontinues.isTrimmed d (List.mem_of_getLast? hlast)
          have hend : (cs ++ blanks).getLast? = some d := by
            rw [List.getLast?_append, hlast, Option.some_or]
          exact absurd (h.lt_of_getLast? hspecial hunended hend) (by omega)
  · exact takeWhile_append_of_ne_nil hend

/-- A continued text is read as its base is, with the same authority and a longer text behind it. -/
theorem parseAuthority_of_continued {base url : String} (hbase : parse base = .ok v)
    (hweb : v.isFetchable = true) (hurl : parse url = .ok u)
    (hclean : clean url = clean base ++ (blanks ++ more))
    (hcontinues : Continues (clean base) blanks more) :
    ∃ cs, cs ≠ [] ∧ cs <:+ clean base ∧ parseAuthority v.scheme cs = .ok v ∧
      parseAuthority v.scheme (cs ++ (blanks ++ more)) = .ok u ∧
      authorityOf (cs ++ (blanks ++ more)) = authorityOf cs := by
  obtain ⟨rest, hsplit, hv⟩ := parse_eq_ok_of_web hbase hweb
  have hspecial := isSpecialScheme_of_isFetchable hweb
  have hspells := spells_of_parseAuthority hspecial hv
  have hne : rest.dropWhile (isSlash true) ≠ [] := by
    intro hnil
    rw [hnil] at hspells
    exact hspells.ne_nil hspecial rfl
  have hsuffix : rest.dropWhile (isSlash true) <:+ clean base := by
    have hcolon := (splitScheme?_eq_some.1 hsplit).2.1
    have hrest : ':' :: rest <:+ clean base := hcolon ▸ List.dropWhile_suffix _
    exact (List.dropWhile_suffix _).trans ((List.suffix_cons _ _).trans hrest)
  have hu : parseAuthority v.scheme (rest.dropWhile (isSlash true) ++ (blanks ++ more)) =
      .ok u := by
    rw [parse, hclean, splitScheme?_append hsplit] at hurl
    dsimp only at hurl
    rwa [parseAfterScheme_of_web (by simpa [isFetchable] using hweb),
      dropWhile_append_of_ne_nil hne] at hurl
  exact ⟨_, hne, hsuffix, hv, hu, authorityOf_continued hspecial hne hsuffix hcontinues
    (spells_of_parseAuthority hspecial hu)⟩

/-- The URL of a continued text has the scheme, host and port of its base. -/
theorem origin_of_continued {base url : String} (hbase : parse base = .ok v)
    (hweb : v.isFetchable = true) (hurl : parse url = .ok u)
    (hclean : clean url = clean base ++ (blanks ++ more))
    (hcontinues : Continues (clean base) blanks more) : u.SharesOrigin v := by
  obtain ⟨cs, -, -, hv, hu, hauthority⟩ :=
    parseAuthority_of_continued hbase hweb hurl hclean hcontinues
  have hspecial := isSpecialScheme_of_isFetchable hweb
  have hspells := spells_of_parseAuthority hspecial hu
  rw [hauthority] at hspells
  exact hspells.unique (spells_of_parseAuthority hspecial hv)

end Prelaunch.Url
