import Prelaunch.Artifact.Plan
import Prelaunch.Proofs.Path
import Prelaunch.Proofs.Success

/-!
The names under which downloads are kept. Lower-casing puts nothing but letters and marks in the
place of a character, so the name made from a suffix that stays in its directory is one normal name.
-/

namespace Prelaunch

namespace Text

/-- The characters that lower-casing puts in the place of others lie in this range. -/
def CaseRun.IsHigh (r : CaseRun) : Bool :=
  0x61 ≤ r.first + r.shift &&
    (r.last + r.shift < 0xD800 || (0xE000 ≤ r.first + r.shift && r.last + r.shift < 0x110000))

theorem isHigh_of_mem_lowerRuns : ∀ r ∈ lowerRuns, r.IsHigh = true := by
  decide +kernel

theorem le_toNat_partner {r : CaseRun} (hr : r ∈ lowerRuns) {c : Char}
    (hcovers : r.covers c.toNat = true) : 0x61 ≤ (Char.ofNat (r.partner c.toNat)).toNat := by
  have hhigh := isHigh_of_mem_lowerRuns r hr
  simp only [CaseRun.IsHigh, Bool.and_eq_true, Bool.or_eq_true, decide_eq_true_eq] at hhigh
  simp only [CaseRun.covers, Bool.and_eq_true, decide_eq_true_eq] at hcovers
  have hpartner : (r.partner c.toNat : Int) = c.toNat + r.shift := by
    simp only [CaseRun.partner]
    omega
  have hvalid : (r.partner c.toNat).isValidChar := by
    unfold Nat.isValidChar
    omega
  rw [Char.ofNat, dif_pos hvalid]
  change 0x61 ≤ r.partner c.toNat
  omega

theorem mem_lowerChar {c d : Char} (h : d ∈ lowerChar c) : d = c ∨ 0x61 ≤ d.toNat := by
  unfold lowerChar at h
  split at h
  · right
    rcases List.mem_cons.1 h with rfl | h
    · decide
    · obtain rfl := List.mem_singleton.1 h
      decide
  · split at h
    · rename_i run hrun
      obtain rfl := List.mem_singleton.1 h
      exact .inr (le_toNat_partner (List.mem_of_find?_eq_some hrun)
        (List.find?_some (p := fun r : CaseRun => r.covers c.toNat) hrun))
    · exact .inl (List.mem_singleton.1 h)

theorem mem_lowerAfter {d : Char} {before cs : List Char} (h : d ∈ lowerAfter before cs) :
    d ∈ cs ∨ 0x61 ≤ d.toNat := by
  induction cs generalizing before with
  | nil => simp [lowerAfter] at h
  | cons c rest ih =>
      rw [lowerAfter, List.mem_append] at h
      rcases h with h | h
      · split at h
        · right
          obtain rfl := List.mem_singleton.1 h
          split <;> decide
        · rcases mem_lowerChar h with rfl | hhigh
          · exact .inl List.mem_cons_self
          · exact .inr hhigh
      · exact (ih h).imp_left (List.mem_cons_of_mem c)

/-- Lower-casing makes no character below the small letters. -/
theorem mem_lowercase {d : Char} {s : String} (h : d ∈ (lowercase s).toList) :
    d ∈ s.toList ∨ 0x61 ≤ d.toNat := by
  rw [lowercase, String.toList_ofList] at h
  exact mem_lowerAfter h

theorem mem_lowerAfter_of_mem {c : Char} {cs : List Char} (before : List Char) (hc : c ∈ cs)
    (hsigma : c ≠ 'Σ') (hlower : lowerChar c = [c]) : c ∈ lowerAfter before cs := by
  induction cs generalizing before with
  | nil => cases hc
  | cons d rest ih =>
      rw [lowerAfter, List.mem_append]
      rcases List.mem_cons.1 hc with rfl | hc
      · rw [if_neg (by simpa using hsigma), hlower]
        exact .inl List.mem_cons_self
      · exact .inr (ih _ hc)

/-- A character that is its own lower case stays. -/
theorem mem_lowercase_of_mem {c : Char} {s : String} (hc : c ∈ s.toList) (hsigma : c ≠ 'Σ')
    (hlower : lowerChar c = [c]) : c ∈ (lowercase s).toList := by
  rw [lowercase, String.toList_ofList]
  exact mem_lowerAfter_of_mem [] hc hsigma hlower

end Text

theorem Path.isNormalName_encode {name : String} (hseparator : '/' ∉ name.toList)
    (hnul : '\x00' ∉ name.toList) (hlong : 2 < (Utf8.encode name).length) :
    IsNormalName (Utf8.encode name) where
  ne_nil := by
    intro h
    simp [h] at hlong
  separator_notMem := by
    rw [Utf8.mem_encode (by decide)]
    rintro ⟨c, hc, heq⟩
    obtain rfl : c = '/' := Char.toNat_inj.1 heq
    exact hseparator hc
  nul_notMem := by
    rw [Utf8.mem_encode (by decide)]
    rintro ⟨c, hc, heq⟩
    obtain rfl : c = '\x00' := Char.toNat_inj.1 heq
    exact hnul hc
  ne_currentName := by
    intro h
    simp [h, currentName] at hlong
  ne_parentName := by
    intro h
    simp [h, parentName] at hlong

namespace Artifact

theorem notMem_of_isContained {suffix : String} (h : isContained suffix = true) {c : Char}
    (hc : c = '/' ∨ c = '\\' ∨ c = '\x00') : c ∉ suffix.toList := by
  simp only [isContained, Bool.and_eq_true, Bool.not_eq_true', List.any_eq_false] at h
  intro hmem
  have hno := h.1.2 c hmem
  rcases hc with rfl | rfl | rfl <;> simp at hno

/-- Lower-casing puts no such character in the place of another one. -/
theorem notMem_lowercase_of_isContained {suffix : String} (h : isContained suffix = true) {c : Char}
    (hc : c = '/' ∨ c = '\\' ∨ c = '\x00') : c ∉ (Text.lowercase suffix).toList := by
  intro hmem
  rcases Text.mem_lowercase hmem with hmem | hhigh
  · exact notMem_of_isContained h hc hmem
  · rcases hc with rfl | rfl | rfl <;> simp at hhigh

theorem isNormalName_stem_append {suffix : String} (h : isContained suffix = true)
    {ending : String} (hseparator : '/' ∉ ending.toList) (hnul : '\x00' ∉ ending.toList)
    (hlong : 2 < (Utf8.encode ending).length) :
    Path.IsNormalName (Utf8.encode (Text.lowercase suffix ++ ending)) := by
  refine Path.isNormalName_encode ?_ ?_ ?_
  · simp [notMem_lowercase_of_isContained h, hseparator]
  · simp [notMem_lowercase_of_isContained h, hnul]
  · rw [Utf8.encode_append, List.length_append]
    omega

theorem isNormalName_primaryFileName : Path.IsNormalName (Utf8.encode primaryFileName) :=
  Path.isNormalName_encode (by decide) (by decide) (by decide)

theorem isNormalName_fileNameOf (kind : ArtifactKind) {suffix : String}
    (h : isContained suffix = true) : Path.IsNormalName (Utf8.encode (fileNameOf kind suffix)) := by
  cases kind with
  | primaryConfig => exact isNormalName_primaryFileName
  | config => exact isNormalName_stem_append h (by decide) (by decide) (by decide)
  | handler => exact isNormalName_stem_append h (by decide) (by decide) (by decide)

end Artifact

/-! Plans. -/

namespace Plan

/-- What the name of a variable says of the file. -/
def Candidate.suffix (c : Candidate) : String := (Text.dropStart? c.start c.source).getD c.source

theorem Candidate.request_eq_ok {dir : Path} {c : Candidate} {r : ArtifactRequest}
    (h : c.request dir = .ok r) : Artifact.isContained c.suffix = true ∧
      r = ⟨c.url, dir.join (Artifact.fileNameOf c.kind c.suffix), c.kind, c.source⟩ := by
  unfold Candidate.request Candidate.fileName Artifact.fileName at h
  dsimp only at h
  split at h
  · rename_i hcontained
    exact ⟨hcontained, (Except.ok.inj h).symm⟩
  · cases h

theorem Candidate.isChildOf_of_request {dir : Path} {c : Candidate} {r : ArtifactRequest}
    (h : c.request dir = .ok r) : r.path.IsChildOf dir := by
  obtain ⟨hcontained, rfl⟩ := request_eq_ok h
  exact ⟨_, rfl, Artifact.isNormalName_fileNameOf c.kind hcontained⟩

theorem primaryRequest_isChildOf (dir : Path) (url : String) :
    (primaryRequest dir url).path.IsChildOf dir :=
  ⟨_, rfl, Artifact.isNormalName_primaryFileName⟩

end Plan

theorem Plan.mem_plan {env : Environment} {dir : Path} {primary : Option String}
    {rs : List ArtifactRequest} (h : plan env dir primary = .ok rs) {r : ArtifactRequest}
    (hr : r ∈ rs) : (∃ url, primary = some url ∧ r = primaryRequest dir url) ∨
      ∃ c ∈ candidates env, c.request dir = .ok r := by
  obtain ⟨requests, hrequests, h⟩ := bind_eq_ok.1 h
  obtain rfl := Except.ok.inj h
  rcases List.mem_append.1 hr with hr | hr
  · obtain ⟨url, hurl, rfl⟩ := Option.map_eq_some_iff.1 (Option.mem_toList.1 hr)
    exact .inl ⟨url, hurl, rfl⟩
  · obtain ⟨c, hc, hrequest⟩ := exists_of_mem_mapM hrequests hr
    exact .inr ⟨c, (List.mem_filter.1 hc).1, hrequest⟩

/-- Every file of a plan is one step below the directory it is made for. -/
theorem isChildOf_of_mem_plan {env : Environment} {dir : Path} {primary : Option String}
    {rs : List ArtifactRequest} (h : plan env dir primary = .ok rs) {r : ArtifactRequest}
    (hr : r ∈ rs) : r.path.IsChildOf dir := by
  obtain ⟨url, -, rfl⟩ | ⟨c, -, hrequest⟩ := Plan.mem_plan h hr
  · exact Plan.primaryRequest_isChildOf dir url
  · exact Plan.Candidate.isChildOf_of_request hrequest

end Prelaunch
