import Prelaunch.Proofs.UrlContinuation

/-!
Web URLs whose text goes on behind another's. A query and a fragment only grow then. A path goes on
segment by segment, and the names that were there stay in front of the new ones, unless segments of
two dots take back more than has been added.
-/

namespace Prelaunch.Url

variable {cs more : List Char} {names extra : List String} {s : List Char}
  {front rest : List (List Char)} {file : Bool} {u v : Url}

/-! Segments. -/

def isDots (s : List Char) : Bool := isTwoDots s || isOneDot s

/-- From some depth on, the segments at some point take back more than there is. -/
def climbs : Nat → List (List Char) → Bool
  | _, [] => false
  | depth, s :: rest =>
    if isTwoDots s then depth == 0 || climbs (depth - 1) rest
    else climbs (if isOneDot s then depth else depth + 1) rest

theorem addSegment_last (file : Bool) (names : List String) (s : List Char) :
    addSegment file true names s =
      addSegment file false names s ++ (if isDots s then [""] else []) := by
  unfold addSegment isDots
  split
  · simp [*]
  · split <;> simp [*]

theorem addSegments_append (hne : rest ≠ []) :
    addSegments file names (front ++ rest) =
      addSegments file (front.foldl (addSegment file false) names) rest := by
  induction front generalizing names with
  | nil => rfl
  | cons s front ih =>
      have hrest : front ++ rest ≠ [] := by simp [hne]
      rw [List.cons_append, List.foldl_cons, ← ih]
      cases hsplit : front ++ rest with
      | nil => exact absurd hsplit hrest
      | cons t more => rfl

/-- The last segment may put an empty name behind those that it would add within a path. -/
theorem addSegments_cases (hne : front ≠ []) :
    addSegments file names front = front.foldl (addSegment file false) names ∨
      addSegments file names front = front.foldl (addSegment file false) names ++ [""] := by
  rw [← List.dropLast_append_getLast hne, addSegments_append (List.cons_ne_nil _ []),
    List.foldl_append]
  have hlast := addSegment_last file (front.dropLast.foldl (addSegment file false) names)
    (front.getLast hne)
  cases hdots : isDots (front.getLast hne) with
  | true =>
      rw [hdots] at hlast
      exact .inr hlast
  | false =>
      rw [hdots, if_neg Bool.false_ne_true, List.append_nil] at hlast
      exact .inl hlast

/-- A segment that does not climb leaves the names in front. -/
theorem exists_addSegment (names : List String) (h : climbs extra.length (s :: rest) = false) :
    ∃ added, addSegment false false (names ++ extra) s = names ++ added ∧
      (isDots s = false → added ≠ []) ∧ climbs added.length rest = false := by
  unfold climbs at h
  unfold addSegment isDots
  split at h
  · rename_i hdots
    rw [if_pos hdots]
    simp only [Bool.or_eq_false_iff, beq_eq_false_iff_ne] at h
    have hne : extra ≠ [] := fun hnil => h.1 (by rw [hnil]; rfl)
    have hpinned : isPinned false (names ++ extra) = false := by
      unfold isPinned
      split <;> rfl
    refine ⟨extra.dropLast, ?_, by simp [hdots], by rw [List.length_dropLast]; exact h.2⟩
    simp [dropLastSegment, hpinned, List.dropLast_append_of_ne_nil hne]
  · rename_i hdots
    rw [if_neg hdots]
    split at h
    · rename_i hdot
      rw [if_pos hdot]
      exact ⟨extra, by simp, by simp [hdot], h⟩
    · rename_i hdot
      rw [if_neg hdot]
      refine ⟨extra ++ [_], List.append_assoc .., by simp, ?_⟩
      rw [List.length_append, List.length_singleton]
      exact h

/-- Segments that do not climb leave the names in front, and put at least one behind them. -/
theorem exists_addSegments (names : List String) (hne : rest ≠ [])
    (h : climbs extra.length rest = false) :
    ∃ added, addSegments false (names ++ extra) rest = names ++ added ∧ added ≠ [] := by
  induction rest generalizing extra with
  | nil => exact absurd rfl hne
  | cons s rest ih =>
      obtain ⟨added, hadd, hsome, hclimbs⟩ := exists_addSegment names h
      cases rest with
      | nil =>
          refine ⟨added ++ (if isDots s then [""] else []), ?_, ?_⟩
          · show addSegment false true (names ++ extra) s = _
            rw [addSegment_last, hadd, List.append_assoc]
          · cases hdots : isDots s with
            | true => simp
            | false => simpa using hsome hdots
      | cons t rest =>
          obtain ⟨added', hadd', hne'⟩ := ih (List.cons_ne_nil t rest) hclimbs
          refine ⟨added', ?_, hne'⟩
          show addSegments false (addSegment false false (names ++ extra) s) (t :: rest) = _
          rw [hadd, hadd']

/-- No path of a web URL is without a name. -/
theorem addSegments_ne_nil (hne : rest ≠ []) : addSegments file names rest ≠ [] := by
  rw [← List.dropLast_append_getLast hne, addSegments_append (List.cons_ne_nil _ [])]
  show addSegment file true _ _ ≠ []
  unfold addSegment
  split
  · simp
  · split <;> simp

/-! Texts that go on. -/

/-- A new part begins behind the text, or it ends in a slash. -/
def GoesOn (before more : List Char) : Prop :=
  before.getLast? = some '/' ∨
    ∃ mark after, more = mark :: after ∧ (mark = '/' ∨ mark = '?' ∨ mark = '#')

/-- The one text lies under the other. -/
def Extends (long short : List Char) : Prop :=
  ∃ more, long = short ++ more ∧ (more = [] ∨ GoesOn short more)

theorem Extends.refl (cs : List Char) : Extends cs cs := ⟨[], by simp, .inl rfl⟩

theorem GoesOn.append_left (h : GoesOn cs more) (before : List Char) :
    GoesOn (before ++ cs) more := by
  obtain hslash | hmark := h
  · left
    rw [List.getLast?_append, hslash]
    rfl
  · exact .inr hmark

theorem GoesOn.append_right (h : GoesOn cs more) (after : List Char) :
    GoesOn cs (more ++ after) := by
  obtain hslash | ⟨mark, rest, rfl, hmark⟩ := h
  · exact .inl hslash
  · exact .inr ⟨mark, rest ++ after, rfl, hmark⟩

theorem Extends.append_left {short long : List Char} (h : Extends long short)
    (before : List Char) : Extends (before ++ long) (before ++ short) := by
  obtain ⟨more, rfl, hmore⟩ := h
  exact ⟨more, (List.append_assoc ..).symm, hmore.imp_right (·.append_left before)⟩

/-- The marks that are written as they are keep their place. -/
theorem GoesOn.encode {escapes : Char → Bool} (h : GoesOn cs more) (hslash : escapes '/' = false)
    (hmarks : ∀ mark ∈ more.head?, mark = '/' ∨ mark = '?' ∨ mark = '#' → escapes mark = false) :
    GoesOn (Percent.encode escapes cs) (Percent.encode escapes more) := by
  obtain hlast | ⟨mark, after, rfl, hmark⟩ := h
  · left
    obtain ⟨before, rfl⟩ := List.getLast?_eq_some_iff.1 hlast
    simp [Percent.encode, hslash]
  · right
    have hkept := hmarks mark rfl hmark
    exact ⟨mark, Percent.encode escapes after, by simp [Percent.encode, hkept], hmark⟩

/-! Query and fragment. -/

/-- What is written of the text from the mark of the query or the fragment on. -/
def tailText (cs : List Char) : List Char :=
  ((((parseTail true cs).1.map ("?" ++ ·)).getD "") ++
    (((parseTail true cs).2.map ("#" ++ ·)).getD "")).toList

/-- Nothing, or a fragment with its mark. -/
def IsFragment (cs : List Char) : Prop := cs = [] ∨ ∃ after, cs = '#' :: after

theorem exists_isFragment (cs : List Char) :
    ∃ before after, cs = before ++ after ∧ '#' ∉ before ∧ IsFragment after := by
  refine ⟨cs.takeWhile (· != '#'), cs.dropWhile (· != '#'), ?_, ?_, ?_⟩
  · exact List.takeWhile_append_dropWhile.symm
  · intro hmem
    simpa using List.mem_takeWhile_imp hmem
  · cases hdrop : cs.dropWhile (· != '#') with
    | nil => exact .inl rfl
    | cons c after =>
        have hhead := List.head?_dropWhile_not (· != '#') cs
        obtain rfl : c = '#' := by simpa [hdrop] using hhead
        exact .inr ⟨after, rfl⟩

theorem tailText_fragment (cs : List Char) :
    tailText ('#' :: cs) = '#' :: Percent.encode Percent.inFragment cs := by
  simp [tailText, parseTail]

theorem tailText_query {query after : List Char} (hquery : '#' ∉ query) (hafter : IsFragment after) :
    tailText ('?' :: (query ++ after)) =
      '?' :: Percent.encode Percent.inSpecialQuery query ++ tailText after := by
  have hall : ∀ c ∈ query, (c != '#') = true := fun c hc => by
    rw [bne_iff_ne]
    rintro rfl
    exact hquery hc
  have htake : (query ++ after).takeWhile (· != '#') = query := by
    rw [List.takeWhile_append_of_pos hall]
    obtain rfl | ⟨fragment, rfl⟩ := hafter <;> simp
  have hdrop : (query ++ after).dropWhile (· != '#') = after := by
    rw [List.dropWhile_append_of_pos hall]
    obtain rfl | ⟨fragment, rfl⟩ := hafter <;> simp
  obtain rfl | ⟨fragment, rfl⟩ := hafter
  · rw [List.append_nil] at htake hdrop ⊢
    simp [tailText, parseTail, htake, hdrop]
  · simp [tailText, parseTail, htake, hdrop]

theorem extends_fragment (hmore : GoesOn ('#' :: cs) more) :
    Extends (tailText ('#' :: cs ++ more)) (tailText ('#' :: cs)) := by
  have hkept : GoesOn (Percent.encode Percent.inFragment ('#' :: cs))
      (Percent.encode Percent.inFragment more) := by
    refine hmore.encode (by decide) fun mark _ hmark => ?_
    rcases hmark with rfl | rfl | rfl <;> decide
  refine ⟨Percent.encode Percent.inFragment more, ?_, .inr ?_⟩
  · rw [List.cons_append, tailText_fragment, tailText_fragment]
    simp [Percent.encode]
  · rw [tailText_fragment]
    exact hkept

/-- What goes on behind a query does so when it is written. -/
theorem GoesOn.encode_query {before after : List Char} (h : GoesOn ('?' :: cs) (before ++ after))
    (hbefore : '#' ∉ before) (hafter : IsFragment after) :
    GoesOn (Percent.encode Percent.inSpecialQuery ('?' :: cs))
      (Percent.encode Percent.inSpecialQuery before ++ tailText after) := by
  cases before with
  | nil =>
      obtain hslash | ⟨mark, rest, hcons, hmark⟩ := h
      · have hend : GoesOn ('?' :: cs) [] := .inl hslash
        exact (hend.encode (by decide) nofun).append_right _
      · obtain rfl | ⟨fragment, rfl⟩ := hafter
        · cases hcons
        · exact .inr ⟨'#', _, by rw [tailText_fragment]; rfl, .inr (.inr rfl)⟩
  | cons c before =>
      have hkept : GoesOn ('?' :: cs) (c :: before) := by
        obtain hslash | ⟨mark, rest, hcons, hmark⟩ := h
        · exact .inl hslash
        · obtain ⟨rfl, -⟩ := List.cons.inj hcons
          exact .inr ⟨c, before, rfl, hmark⟩
      refine (hkept.encode (by decide) fun mark hhead hmark => ?_).append_right _
      obtain rfl : c = mark := Option.some.inj hhead
      rcases hmark with rfl | rfl | rfl
      · decide
      · decide
      · simp at hbefore

theorem extends_query (hquery : '#' ∉ cs) (hmore : GoesOn ('?' :: cs) more) :
    Extends (tailText ('?' :: cs ++ more)) (tailText ('?' :: cs)) := by
  obtain ⟨before, after, rfl, hbefore, hafter⟩ := exists_isFragment more
  have hboth : '#' ∉ cs ++ before := by simp [hquery, hbefore]
  have hlong := tailText_query hboth hafter
  have hshort := tailText_query hquery (.inl rfl : IsFragment [])
  have hnil : tailText [] = [] := rfl
  rw [List.append_nil, hnil, List.append_nil] at hshort
  have hencode : Percent.encode Percent.inSpecialQuery ('?' :: cs) =
      '?' :: Percent.encode Percent.inSpecialQuery cs := by
    simp [Percent.encode, show Percent.inSpecialQuery '?' = false by decide]
  rw [List.cons_append, ← List.append_assoc, hlong, hshort]
  refine ⟨Percent.encode Percent.inSpecialQuery before ++ tailText after, ?_, .inr ?_⟩
  · simp [Percent.encode]
  · rw [← hencode]
    exact hmore.encode_query hbefore hafter

/-- Query and fragment grow with the text behind them. -/
theorem extends_tail {mark : Char} (hmark : endsPath mark = true)
    (hmore : GoesOn (mark :: cs) more) :
    Extends (tailText (mark :: cs ++ more)) (tailText (mark :: cs)) := by
  have hcases : mark = '?' ∨ mark = '#' := by simpa [endsPath] using hmark
  rcases hcases with rfl | rfl
  · obtain ⟨query, after, rfl, hquery, rfl | ⟨fragment, rfl⟩⟩ := exists_isFragment cs
    · rw [List.append_nil] at hmore ⊢
      exact extends_query hquery hmore
    · have hlast : GoesOn ('#' :: fragment) more := by
        obtain hslash | hnew := hmore
        · left
          rwa [← List.cons_append, List.getLast?_append_of_ne_nil] at hslash
          simp
        · exact .inr hnew
      have hlong := tailText_query hquery (.inr ⟨fragment ++ more, rfl⟩)
      have hshort := tailText_query hquery (.inr ⟨fragment, rfl⟩)
      rw [hshort, List.cons_append, List.append_assoc, List.cons_append, hlong]
      exact (extends_fragment hlast).append_left _
  · exact extends_fragment hmore

theorem exists_tailText_cons {mark : Char} (hmark : endsPath mark = true) (cs : List Char) :
    ∃ rest, tailText (mark :: cs) = mark :: rest := by
  have hcases : mark = '?' ∨ mark = '#' := by simpa [endsPath] using hmark
  rcases hcases with rfl | rfl
  · obtain ⟨query, after, rfl, hquery, hafter⟩ := exists_isFragment cs
    exact ⟨_, tailText_query hquery hafter⟩
  · exact ⟨_, tailText_fragment cs⟩

/-! Paths. -/

/-- What is written of a path. -/
def pathChars (names : List String) : List Char := names.flatMap fun name => '/' :: name.toList

theorem pathChars_append (names extra : List String) :
    pathChars (names ++ extra) = pathChars names ++ pathChars extra := List.flatMap_append

/-- More names lie under those in front of them, whether or not an empty one ends these. -/
theorem extends_names {added : List String} (hne : added ≠ []) (after : List Char) {short : List String}
    (hshort : short = names ∨ short = names ++ [""]) :
    Extends (pathChars (names ++ added) ++ after) (pathChars short) := by
  obtain ⟨name, rest, rfl⟩ := List.exists_cons_of_ne_nil hne
  obtain rfl | rfl := hshort
  · refine ⟨pathChars (name :: rest) ++ after, ?_, .inr (.inr ⟨'/', _, rfl, .inl rfl⟩)⟩
    rw [pathChars_append, List.append_assoc]
  · refine ⟨name.toList ++ (pathChars rest ++ after), ?_, .inr (.inl ?_)⟩
    · simp [pathChars]
    · simp [pathChars]

/-- The segments of the path that an authority is followed by. -/
def pathSegments (cs : List Char) : List (List Char) :=
  ((dropSlash true cs).takeWhile (!endsPath ·)).splitOnP (isSlash true)

/-- The segments that a longer text has behind those of its base. -/
def segmentsBehind (base more : List Char) : List (List Char) :=
  let pieces := (more.takeWhile (!endsPath ·)).splitOnP (isSlash true)
  if base.getLast? = some '/' then pieces else pieces.tail

theorem dropSlash_append (hne : cs ≠ []) :
    dropSlash true (cs ++ more) = dropSlash true cs ++ more := by
  cases cs with
  | nil => exact absurd rfl hne
  | cons c cs =>
      rw [List.cons_append, dropSlash, dropSlash]
      split <;> rfl

theorem isSlash_of_not_endsPath {c : Char} (h : endsAuthority true c = true)
    (hpath : endsPath c = false) : isSlash true c = true := by
  simpa [endsAuthority, hpath] using h

theorem endsPath_of_isSlash {c : Char} (h : isSlash true c = true) : endsPath c = false := by
  have hcases : c = '/' ∨ c = '\\' := by simpa [isSlash] using h
  rcases hcases with rfl | rfl <;> decide

theorem dropWhile_dropSlash (cs : List Char) :
    (dropSlash true cs).dropWhile (!endsPath ·) = cs.dropWhile (!endsPath ·) := by
  cases cs with
  | nil => rfl
  | cons c cs =>
      rw [dropSlash]
      split
      · rename_i hslash
        rw [List.dropWhile_cons_of_pos (by simp [endsPath_of_isSlash hslash])]
      · rfl

/-- With a query or a fragment in it, the text has its whole path. -/
theorem pathSegments_append_of_tail (h : cs.dropWhile (!endsPath ·) ≠ []) :
    pathSegments (cs ++ more) = pathSegments cs := by
  have hne : cs ≠ [] := by
    rintro rfl
    exact h rfl
  rw [← dropWhile_dropSlash] at h
  rw [pathSegments, dropSlash_append hne, takeWhile_append_of_ne_nil h, pathSegments]

theorem pathSegments_of_path {c : Char} (hslash : isSlash true c = true)
    (hpath : ∀ d ∈ cs, endsPath d = false) (more : List Char) :
    pathSegments (c :: cs ++ more) =
      (cs ++ more.takeWhile (!endsPath ·)).splitOnP (isSlash true) := by
  have hall : ∀ d ∈ cs, (!endsPath d) = true := fun d hd => by simp [hpath d hd]
  rw [pathSegments, List.cons_append, dropSlash, if_pos hslash,
    List.takeWhile_append_of_pos hall]

theorem segmentsBehind_of_slash {base : List Char} (hends : base.getLast? = some '/')
    (more : List Char) :
    segmentsBehind base more = (more.takeWhile (!endsPath ·)).splitOnP (isSlash true) :=
  if_pos hends

/-- Behind a text that ends in no slash, the new slash begins the new segments. -/
theorem segmentsBehind_cons {base : List Char} (hends : base.getLast? ≠ some '/')
    (after : List Char) : segmentsBehind base ('/' :: after) =
      (after.takeWhile (!endsPath ·)).splitOnP (isSlash true) := by
  have htake : ('/' :: after).takeWhile (!endsPath ·) = '/' :: after.takeWhile (!endsPath ·) := rfl
  have hslash : isSlash true '/' = true := rfl
  have hsplit := List.splitOnP_append_cons [] (after.takeWhile (!endsPath ·)) hslash
  rw [List.nil_append] at hsplit
  unfold segmentsBehind
  rw [if_neg hends, htake, hsplit, List.splitOnP_nil]
  rfl

/-- Where a path goes on, its new segments come behind those that it has, of which an empty one at
the end does not count if a slash ends it. -/
theorem pathSegments_append {before : List Char} {c : Char} (hslash : isSlash true c = true)
    (hpath : ∀ d ∈ cs, endsPath d = false) (hlast : before.getLast? = (c :: cs).getLast?)
    (hmore : GoesOn (c :: cs) more) (hroot : cs ≠ []) :
    (∃ mark after, more = mark :: after ∧ endsPath mark = true) ∧
        pathSegments (c :: cs ++ more) = pathSegments (c :: cs) ∨
      ∃ front, pathSegments (c :: cs ++ more) = front ++ segmentsBehind before more ∧
        segmentsBehind before more ≠ [] ∧
        (pathSegments (c :: cs) = front ∨ pathSegments (c :: cs) = front ++ [[]]) := by
  have hshort : pathSegments (c :: cs) = cs.splitOnP (isSlash true) := by
    have hnil := pathSegments_of_path hslash hpath []
    simpa using hnil
  rw [pathSegments_of_path hslash hpath, hshort]
  by_cases hends : (c :: cs).getLast? = some '/'
  · obtain ⟨front, rfl⟩ : ∃ front, cs = front ++ ['/'] := by
      rw [← List.singleton_append, List.getLast?_append_of_ne_nil _ hroot] at hends
      exact List.getLast?_eq_some_iff.1 hends
    rw [segmentsBehind_of_slash (hlast.trans hends)]
    refine .inr ⟨front.splitOnP (isSlash true), ?_, List.splitOnP_ne_nil _ _, .inr ?_⟩
    · rw [List.append_assoc, List.singleton_append, List.splitOnP_append_cons _ _ rfl]
    · rw [List.splitOnP_append_cons _ _ rfl, List.splitOnP_nil]
  · obtain hslash | ⟨mark, after, rfl, rfl | hmark⟩ := hmore
    · exact absurd hslash hends
    · rw [segmentsBehind_cons (hlast ▸ hends)]
      refine .inr ⟨cs.splitOnP (isSlash true), ?_, List.splitOnP_ne_nil _ _, .inl rfl⟩
      have htake : ('/' :: after).takeWhile (!endsPath ·) =
          '/' :: after.takeWhile (!endsPath ·) := rfl
      rw [htake, List.splitOnP_append_cons _ _ rfl]
    · left
      have hnone : (mark :: after).takeWhile (!endsPath ·) = [] := by
        rcases hmark with rfl | rfl <;> rfl
      rw [hnone, List.append_nil]
      exact ⟨⟨mark, after, rfl, by simpa [endsPath] using hmark⟩, rfl⟩

/-- The names of the path that an authority is followed by. -/
def pathNames (cs : List Char) : List String := addSegments false [] (pathSegments cs)

/-- Everything lies under the root. -/
theorem extends_root (cs after : List Char) :
    Extends (pathChars (pathNames cs) ++ after) (pathChars [""]) := by
  have hne : pathNames cs ≠ [] := addSegments_ne_nil (List.splitOnP_ne_nil _ _)
  obtain ⟨name, names, hnames⟩ := List.exists_cons_of_ne_nil hne
  rw [hnames]
  exact ⟨_, rfl, .inr (.inl rfl)⟩

/-- A path that goes on lies under its beginning, unless it climbs. -/
theorem extends_path {before : List Char} {c : Char} (hslash : isSlash true c = true)
    (hpath : ∀ d ∈ cs, endsPath d = false) (hlast : before.getLast? = (c :: cs).getLast?)
    (hmore : GoesOn (c :: cs) more) (hroot : cs ≠ [])
    (hclimbs : climbs 0 (segmentsBehind before more) = false) :
    Extends (pathChars (pathNames (c :: cs ++ more)) ++
        tailText ((c :: cs ++ more).dropWhile (!endsPath ·)))
      (pathChars (pathNames (c :: cs))) := by
  have hall : ∀ d ∈ c :: cs, (!endsPath d) = true := by
    rw [List.forall_mem_cons]
    exact ⟨by simp [endsPath_of_isSlash hslash], fun d hd => by simp [hpath d hd]⟩
  unfold pathNames
  obtain ⟨⟨mark, after, rfl, hmark⟩, hsame⟩ | ⟨front, hlong, hne, hshort⟩ :=
    pathSegments_append hslash hpath hlast hmore hroot
  · obtain ⟨rest, hrest⟩ := exists_tailText_cons hmark after
    have hcases : mark = '?' ∨ mark = '#' := by simpa [endsPath] using hmark
    rw [hsame, List.dropWhile_append_of_pos hall, List.dropWhile_cons_of_neg (by simp [hmark]),
      hrest]
    exact ⟨_, rfl, .inr (.inr ⟨mark, rest, rfl, .inr hcases⟩)⟩
  · have hdepth : climbs ([] : List String).length (segmentsBehind before more) = false := hclimbs
    obtain ⟨added, hadded, hadds⟩ := exists_addSegments
      (front.foldl (addSegment false false) []) hne hdepth
    rw [List.append_nil] at hadded
    rw [hlong, addSegments_append hne, hadded]
    refine extends_names hadds _ ?_
    obtain hshort | hshort := hshort
    · rw [hshort]
      exact addSegments_cases (hshort ▸ List.splitOnP_ne_nil _ _)
    · right
      rw [hshort, addSegments_append (List.cons_ne_nil _ [])]
      rfl

/-! What stands behind the authority. -/

def placeText (u : Url) : List Char := (u.pathText ++ u.queryText ++ u.fragmentText).toList

/-- Path, query and fragment are read from the text behind the authority. -/
structure HasPlace (cs : List Char) (u : Url) : Prop where
  path : u.path = .segments (pathNames cs)
  tail : (u.query, u.fragment) = parseTail true (cs.dropWhile (!endsPath ·))

theorem HasPlace.placeText_eq (h : HasPlace cs u) :
    u.placeText = pathChars (pathNames cs) ++ tailText (cs.dropWhile (!endsPath ·)) := by
  rw [placeText, pathText, h.path, tailText, ← h.tail]
  simp [pathChars, queryText, fragmentText, List.flatMap_map, List.append_assoc]

/-- With a query or a fragment in it, the place only grows at its end. -/
theorem HasPlace.extends_of_tail (hv : HasPlace cs v) (hu : HasPlace (cs ++ more) u)
    (hmore : GoesOn cs more) (hne : cs.dropWhile (!endsPath ·) ≠ []) :
    Extends u.placeText v.placeText := by
  rw [hu.placeText_eq, hv.placeText_eq, pathNames, pathSegments_append_of_tail hne,
    dropWhile_append_of_ne_nil hne]
  cases hdrop : cs.dropWhile (!endsPath ·) with
  | nil => exact absurd hdrop hne
  | cons mark tail =>
      have hmark : endsPath mark = true := by
        have hhead := List.head?_dropWhile_not (!endsPath ·) cs
        simpa [hdrop] using hhead
      have hgoes : GoesOn (mark :: tail) more := by
        refine hmore.imp_left fun hslash => ?_
        rwa [← List.takeWhile_append_dropWhile (p := (!endsPath ·)) (l := cs),
          List.getLast?_append_of_ne_nil _ hne, hdrop] at hslash
      exact (extends_tail hmark hgoes).append_left _

/-- With a path alone, the place lies under its beginning if that is the root, or if the segments do
not climb. -/
theorem HasPlace.extends_of_path {before : List Char} (hpast : IsPastAuthority cs)
    (hv : HasPlace cs v) (hu : HasPlace (cs ++ more) u)
    (hlast : cs ≠ [] → before.getLast? = cs.getLast?) (hmore : GoesOn cs more)
    (hpath : ∀ c ∈ cs, endsPath c = false)
    (hstays : v.path = .segments [""] ∨ climbs 0 (segmentsBehind before more) = false) :
    Extends u.placeText v.placeText := by
  have hnone : cs.dropWhile (!endsPath ·) = [] := by simpa using hpath
  have htail : tailText [] = [] := rfl
  rw [hu.placeText_eq, hv.placeText_eq, hnone, htail, List.append_nil]
  by_cases hroot : v.path = .segments [""]
  · rw [UrlPath.segments.inj (hv.path.symm.trans hroot)]
    exact extends_root _ _
  · cases cs with
    | nil => exact absurd hv.path hroot
    | cons c cs =>
        obtain ⟨hc, hcs⟩ := List.forall_mem_cons.1 hpath
        have hslash : isSlash true c = true :=
          isSlash_of_not_endsPath (by simpa [IsPastAuthority] using hpast) hc
        have hne : cs ≠ [] := by
          rintro rfl
          refine hroot (hv.path.trans ?_)
          rw [pathNames, pathSegments, dropSlash, if_pos hslash]
          rfl
        exact extends_path hslash hcs (hlast (List.cons_ne_nil c cs)) hmore hne
          (hstays.resolve_left hroot)

theorem HasPlace.extends {before : List Char} (hpast : IsPastAuthority cs) (hv : HasPlace cs v)
    (hu : HasPlace (cs ++ more) u) (hlast : cs ≠ [] → before.getLast? = cs.getLast?)
    (hmore : GoesOn cs more) : Extends u.placeText v.placeText ∨
      v.query = none ∧ v.fragment = none ∧ v.path ≠ .segments [""] ∧
        climbs 0 (segmentsBehind before more) = true := by
  by_cases hdrop : cs.dropWhile (!endsPath ·) = []
  · have hpath : ∀ c ∈ cs, endsPath c = false := by simpa using hdrop
    by_cases hstays : v.path = .segments [""] ∨ climbs 0 (segmentsBehind before more) = false
    · exact .inl (hv.extends_of_path hpast hu hlast hmore hpath hstays)
    · obtain ⟨hroot, hclimbs⟩ := not_or.1 hstays
      obtain ⟨hquery, hfragment⟩ := Prod.mk.inj (hv.tail.trans (by rw [hdrop]))
      exact .inr ⟨hquery, hfragment, hroot, (Bool.not_eq_false _).mp hclimbs⟩
  · exact .inl (hv.extends_of_tail hu hmore hdrop)

/-! Whole URLs. -/

/-- All that comes before the path is the same. -/
structure SharesAuthority (u v : Url) : Prop where
  scheme : u.scheme = v.scheme
  username : u.username = v.username
  password : u.password = v.password
  host : u.host = v.host
  port : u.port = v.port

theorem HasRead.hasPlace {scheme : String} {left : List Char}
    (hweb : scheme = "http" ∨ scheme = "https") (h : HasRead scheme cs left u) :
    HasPlace (afterAuthority cs) u := by
  have hspecial : isSpecialScheme scheme = true := by
    rcases hweb with rfl | rfl <;> rfl
  have hfile : (scheme == "file") = false := by
    rcases hweb with rfl | rfl <;> rfl
  obtain rfl := h.left_eq hspecial
  have hpath := h.path
  have htail := h.tail
  simp only [parsePath, hspecial, Bool.not_true, Bool.false_and, Bool.false_eq_true, if_false,
    parseSegments, hfile] at hpath
  rw [hspecial] at htail
  exact ⟨hpath, htail⟩

theorem HasRead.sharesAuthority {scheme : String} {cs' left left' : List Char}
    (hspecial : isSpecialScheme scheme = true) (hu : HasRead scheme cs left u)
    (hv : HasRead scheme cs' left' v) (horigin : u.SharesOrigin v)
    (h : authorityOf cs = authorityOf cs') : u.SharesAuthority v := by
  obtain ⟨husername, hpassword⟩ := hu.user
  obtain ⟨husername', hpassword'⟩ := hv.user
  rw [hspecial, splitUserInfo_fst_congr h] at husername hpassword
  rw [hspecial] at husername' hpassword'
  exact ⟨horigin.1, husername.trans husername'.symm, hpassword.trans hpassword'.symm, horigin.2.1,
    horigin.2.2⟩

theorem SharesAuthority.authorityText_eq (h : u.SharesAuthority v) :
    u.authorityText = v.authorityText := by
  unfold authorityText userInfoText portText
  rw [h.host, h.username, h.password, h.port]

theorem HasRead.exists_host {scheme : String} {left : List Char} (h : HasRead scheme cs left u) :
    ∃ host, u.host = some host := by
  have hhost := h.host
  dsimp only at hhost
  revert hhost
  cases parseHost scheme _ with
  | error e => nofun
  | ok host => exact fun hhost => ⟨host, (Except.ok.inj hhost).symm⟩

theorem text_eq {host : Host} (h : u.host = some host) :
    u.text.toList = (u.scheme ++ ":" ++ u.authorityText).toList ++ u.placeText := by
  have hguard : u.pathGuard = "" := by
    unfold pathGuard
    rw [h]
  simp [text, hguard, placeText, List.append_assoc]

theorem GoesOn.continues (h : GoesOn cs more) : Continues cs [] more := by
  refine ⟨nofun, ?_⟩
  obtain hslash | ⟨mark, after, rfl, hmark⟩ := h
  · exact .inl ⟨rfl, hslash⟩
  · refine .inr ⟨mark, after, rfl, endsAuthority_iff.2 ?_⟩
    rcases hmark with rfl | rfl | rfl <;> simp

theorem afterAuthority_append (h : authorityOf (cs ++ more) = authorityOf cs) :
    afterAuthority (cs ++ more) = afterAuthority cs ++ more := by
  have hwhole := authorityOf_append_afterAuthority (cs ++ more)
  rw [h] at hwhole
  have hsame : authorityOf cs ++ afterAuthority (cs ++ more) =
      authorityOf cs ++ (afterAuthority cs ++ more) := by
    rw [hwhole, ← List.append_assoc, authorityOf_append_afterAuthority]
  exact List.append_cancel_left hsame

theorem getLast?_of_isSuffix {before : List Char} (h : cs <:+ before) (hne : cs ≠ []) :
    before.getLast? = cs.getLast? := by
  obtain ⟨front, rfl⟩ := h
  exact List.getLast?_append_of_ne_nil _ hne

/-- A slash at the end of a text ends no authority, so it stands behind it. -/
theorem GoesOn.afterAuthority {before : List Char} (h : GoesOn before more) (hsuffix : cs <:+ before)
    (hne : cs ≠ []) : GoesOn (afterAuthority cs) more := by
  refine h.imp_left fun hslash => ?_
  have hlast := (getLast?_of_isSuffix hsuffix hne).symm.trans hslash
  have hwhole := authorityOf_append_afterAuthority cs
  cases hafter : Url.afterAuthority cs with
  | nil =>
      rw [hafter, List.append_nil] at hwhole
      have hunended := unended_authorityOf cs
      rw [hwhole] at hunended
      exact absurd (hunended '/' (List.mem_of_getLast? hlast)) (by decide)
  | cons c rest =>
      rwa [← hwhole, hafter, List.getLast?_append_of_ne_nil _ (List.cons_ne_nil c rest)] at hlast

/-- The URL of a continued text has the authority of its base, blanks or none. -/
theorem sharesAuthority_of_continued {base url : String} {blanks : List Char}
    (hbase : parse base = .ok v) (hweb : v.isFetchable = true) (hurl : parse url = .ok u)
    (hclean : clean url = clean base ++ (blanks ++ more))
    (hcontinues : Continues (clean base) blanks more) : u.SharesAuthority v := by
  obtain ⟨cs, -, -, hv, hu, hauthority⟩ :=
    parseAuthority_of_continued hbase hweb hurl hclean hcontinues
  obtain ⟨left, hreadv⟩ := exists_hasRead hv
  obtain ⟨left', hreadu⟩ := exists_hasRead hu
  exact hreadu.sharesAuthority (isSpecialScheme_of_isFetchable hweb) hreadv
    (origin_of_continued hbase hweb hurl hclean hcontinues) hauthority

/-- The URL of a text that goes on lies under that of its base, unless it climbs out of the path in
which the base ends. -/
theorem extends_of_goesOn {base url : String} (hbase : parse base = .ok v)
    (hweb : v.isFetchable = true) (hurl : parse url = .ok u)
    (hclean : clean url = clean base ++ more) (hmore : GoesOn (clean base) more) :
    Extends u.text.toList v.text.toList ∨
      v.query = none ∧ v.fragment = none ∧ v.path ≠ .segments [""] ∧
        climbs 0 (segmentsBehind (clean base) more) = true := by
  obtain ⟨cs, hne, hsuffix, hv, hu, hauthority⟩ :=
    parseAuthority_of_continued hbase hweb hurl hclean hmore.continues
  have hshares := sharesAuthority_of_continued hbase hweb hurl hclean hmore.continues
  have hschemes : v.scheme = "http" ∨ v.scheme = "https" := by simpa [isFetchable] using hweb
  rw [List.nil_append] at hu hauthority
  obtain ⟨left, hreadv⟩ := exists_hasRead hv
  obtain ⟨left', hreadu⟩ := exists_hasRead hu
  have hplace := hreadu.hasPlace hschemes
  rw [afterAuthority_append hauthority] at hplace
  have hlast : afterAuthority cs ≠ [] → (clean base).getLast? = (afterAuthority cs).getLast? :=
    getLast?_of_isSuffix ((List.dropWhile_suffix _).trans hsuffix)
  refine ((hreadv.hasPlace hschemes).extends (isPastAuthority_afterAuthority cs) hplace hlast
    (hmore.afterAuthority hsuffix hne)).imp_left fun hextends => ?_
  obtain ⟨host, hhost⟩ := hreadv.exists_host
  rw [text_eq hhost, text_eq (hshares.host.trans hhost), hshares.scheme, hshares.authorityText_eq]
  exact hextends.append_left _

end Prelaunch.Url
