import Prelaunch.Proofs.Answer
import Prelaunch.Proofs.Credential

/-!
For which URLs a token is granted. An answer may tell a URL at the top and one further in, and the
first of them that is not empty is the one to download from. An empty URL at the top is left out as
well, but only after it has kept the one further in from being looked at.
-/

namespace Prelaunch.Grant

variable {complaint : Bytes → String} {url token : String} {body : Bytes} {v : Json} {a : Answer}
  {outer nested base : Option String}

/-! What an answer says. -/

/-- What an answer says as a value. A list gives the fields in order. -/
inductive Says : Json → Answer → Prop where
  | object {members : List (Bytes × Json)} {a : Answer}
      (hfields : HasFields ["authorizationToken", "downloadUrl", "apiInfo"] members)
      (htoken : Tells (value "authorizationToken" members) a.token)
      (houter : Tells (value "downloadUrl" members) a.outerUrl)
      (hinner : TellsWithin "storageApi" (TellsWithin "downloadUrl" Tells)
        (value "apiInfo" members) a.innerUrl) : Says (.object members) a
  | list {token outer info : Json} {a : Answer} (htoken : Tells token a.token)
      (houter : Tells outer a.outerUrl)
      (hinner : TellsWithin "storageApi" (TellsWithin "downloadUrl" Tells) info a.innerUrl) :
      Says (.array [token, outer, info]) a

/-- The three fields of an answer, each read in its own way. -/
def tellsAll? (token outer info : Json) : Option Answer := do
  return ⟨← optionalText? token, ← optionalText? outer,
    ← within? "storageApi" (within? "downloadUrl" optionalText?) info⟩

theorem tellsAll?_eq_some {token outer info : Json} : tellsAll? token outer info = some a ↔
    Tells token a.token ∧ Tells outer a.outerUrl ∧
      TellsWithin "storageApi" (TellsWithin "downloadUrl" Tells) info a.innerUrl := by
  have hinfo (told : Option String) :
      within? "storageApi" (within? "downloadUrl" optionalText?) info = some told ↔
        TellsWithin "storageApi" (TellsWithin "downloadUrl" Tells) info told :=
    within?_eq_some fun _ _ => within?_eq_some fun _ _ => optionalText?_eq_some
  constructor
  · intro h
    obtain ⟨_, htoken, h⟩ := Option.bind_eq_some_iff.1 h
    obtain ⟨_, houter, h⟩ := Option.bind_eq_some_iff.1 h
    obtain ⟨_, hinner, h⟩ := Option.bind_eq_some_iff.1 h
    obtain rfl := Option.some.inj h
    exact ⟨optionalText?_eq_some.1 htoken, optionalText?_eq_some.1 houter, (hinfo _).1 hinner⟩
  · rintro ⟨htoken, houter, hinner⟩
    rw [tellsAll?, optionalText?_eq_some.2 htoken, optionalText?_eq_some.2 houter,
      (hinfo _).2 hinner]
    rfl

theorem ofJson?_eq_some : Answer.ofJson? v = some a ↔ Says v a := by
  constructor
  · intro h
    cases v with
    | object members =>
        by_cases hfields : HasFields ["authorizationToken", "downloadUrl", "apiInfo"] members
        · rw [ofJson?_of_hasFields hfields] at h
          obtain ⟨htoken, houter, hinner⟩ := tellsAll?_eq_some.1 h
          exact .object hfields htoken houter hinner
        · rw [ofJson?_of_not_hasFields hfields] at h
          cases h
    | array items =>
        obtain ⟨values, hvalues, h⟩ := Option.bind_eq_some_iff.1 h
        rw [fields?, Option.ite_none_right_eq_some, beq_iff_eq] at hvalues
        obtain ⟨hlength, hvalues⟩ := hvalues
        obtain rfl := Option.some.inj hvalues
        obtain ⟨token, outer, info, rfl⟩ := List.length_eq_three.1 hlength
        obtain ⟨htoken, houter, hinner⟩ := tellsAll?_eq_some.1 h
        exact .list htoken houter hinner
    | _ => cases h
  · intro h
    cases h with
    | object hfields htoken houter hinner =>
        rw [ofJson?_of_hasFields hfields]
        exact tellsAll?_eq_some.2 ⟨htoken, houter, hinner⟩
    | list htoken houter hinner => exact tellsAll?_eq_some.2 ⟨htoken, houter, hinner⟩

/-! The first URL that can be used. -/

/-- No URL is told, or an empty one, which comes to the same. -/
def IsUseless (told : Option String) : Prop := ∀ u, told = some u → u = ""

/-- The first of two URLs that can be used, if there is one. -/
inductive FirstUsable (outer nested : Option String) : Option String → Prop where
  | outer {u : String} (h : outer = some u) (hne : u ≠ "") : FirstUsable outer nested (some u)
  | nested {u : String} (houter : IsUseless outer) (h : nested = some u) (hne : u ≠ "") :
      FirstUsable outer nested (some u)
  | neither (houter : IsUseless outer) (hnested : IsUseless nested) :
      FirstUsable outer nested none

theorem filter_of_isUseless (h : IsUseless outer) : outer.filter (!·.isEmpty) = none := by
  cases outer with
  | none => rfl
  | some u =>
      obtain rfl := h u rfl
      rfl

theorem filter_of_ne_empty {u : String} (hne : u ≠ "") :
    (some u).filter (!·.isEmpty) = some u :=
  Option.filter_some_pos (by simpa using hne)

/-- It is the one that is left if the useless ones are left out before one is taken. -/
theorem firstUsable_iff : FirstUsable outer nested base ↔
    base = (outer.filter (!·.isEmpty)).or (nested.filter (!·.isEmpty)) := by
  constructor
  · intro h
    cases h with
    | outer h hne => rw [h, filter_of_ne_empty hne, Option.some_or]
    | nested houter h hne =>
        rw [filter_of_isUseless houter, h, filter_of_ne_empty hne, Option.none_or]
    | neither houter hnested =>
        rw [filter_of_isUseless houter, filter_of_isUseless hnested, Option.none_or]
  · rintro rfl
    by_cases houter : IsUseless outer
    · rw [filter_of_isUseless houter, Option.none_or]
      by_cases hnested : IsUseless nested
      · rw [filter_of_isUseless hnested]
        exact .neither houter hnested
      · simp only [IsUseless, not_forall] at hnested
        obtain ⟨u, rfl, hne⟩ := hnested
        rw [filter_of_ne_empty hne]
        exact .nested houter rfl hne
    · simp only [IsUseless, not_forall] at houter
      obtain ⟨u, rfl, hne⟩ := houter
      rw [filter_of_ne_empty hne, Option.some_or]
      exact .outer rfl hne

theorem FirstUsable.unique {base' : Option String} (h : FirstUsable outer nested base)
    (h' : FirstUsable outer nested base') : base = base' :=
  (firstUsable_iff.1 h).trans (firstUsable_iff.1 h').symm

theorem FirstUsable.ne_empty {u : String} (h : FirstUsable outer nested (some u)) : u ≠ "" := by
  cases h <;> assumption

/-- Leaving out what is useless after one has been taken gives the same, except where an empty URL
stands before one that can be used. -/
theorem firstUsable_filter_or : FirstUsable outer nested ((outer.or nested).filter (!·.isEmpty)) ↔
    ¬(outer = some "" ∧ ¬IsUseless nested) := by
  rw [firstUsable_iff]
  cases outer with
  | none => simp
  | some u =>
      rw [Option.some_or]
      by_cases hne : u = ""
      · subst hne
        rw [show (some "").filter (!·.isEmpty) = none from rfl, Option.none_or]
        by_cases hnested : IsUseless nested
        · simp [filter_of_isUseless hnested, hnested]
        · simp only [hnested, not_false_eq_true, and_self, not_true_eq_false, iff_false]
          simp only [IsUseless, not_forall] at hnested
          obtain ⟨w, rfl, hw⟩ := hnested
          simp [filter_of_ne_empty hw]
      · simp [filter_of_ne_empty hne, hne]

/-! The URLs that the token is for. -/

theorem read_of_said (hbody : v.Written body) (hsaid : Says v a) (htoken : a.token = some token)
    (hne : token ≠ "") :
    read complaint url body = .ok ⟨token, (a.outerUrl.or a.innerUrl).filter (!·.isEmpty)⟩ := by
  have hgrant : ofAnswer? a = some ⟨token, (a.outerUrl.or a.innerUrl).filter (!·.isEmpty)⟩ :=
    ofAnswer?_eq_some.2 ⟨htoken, hne, rfl⟩
  rw [read_of_written hbody, ofJson?_eq_some.2 hsaid]
  dsimp only
  rw [hgrant]

/-- A longer URL is covered by the one it continues, if that is the base. -/
theorem covers_continued {g : Grant} {u more : String} (hbase : g.downloadBase ∈ [some u, none])
    (hu : u ≠ "") : g.Covers (u ++ "/" ++ more) ↔
      g.downloadBase = some u ∨ ProviderScheme.HasHostIn providerDomain (u ++ "/" ++ more) := by
  refine or_congr_left ⟨?_, fun hsome => ?_⟩
  · rintro ⟨base, hsome, -⟩
    rw [hsome] at hbase ⊢
    simpa using hbase
  · exact ⟨u, hsome, hu, "/" ++ more, String.append_assoc, .inr (.inr ⟨"/", by simp, more, rfl⟩)⟩

/-- An answer with a token grants the first URL that can be used, except if the one at the top is
there and empty: then it grants none, whatever there is further in. In the first case the token goes
with every URL that continues the one that can be used, and in the second with none of them but
those on the provider's own hosts. -/
theorem download_base_is_first_usable_iff (complaint : Bytes → String) (url : String)
    (hbody : v.Written body) (hsaid : Says v a) (htoken : a.token = some token) (hne : token ≠ "") :
    ∃ base, read complaint url body = .ok ⟨token, base⟩ ∧
      (FirstUsable a.outerUrl a.innerUrl base ↔
        ¬(a.outerUrl = some "" ∧ ¬IsUseless a.innerUrl)) ∧
      (a.outerUrl = some "" → base = none) ∧
      ∀ s, scheme ⟨token, base⟩ = .ok s → s.header = tokenHeader ⟨token, base⟩ ∧
        ∀ u, FirstUsable a.outerUrl a.innerUrl (some u) → ∀ more,
          (Broker.choose ⟨none, some s⟩ (u ++ "/" ++ more) = .provider s ↔
            base = some u ∨ ProviderScheme.HasHostIn providerDomain (u ++ "/" ++ more)) := by
  have hfirst := @firstUsable_filter_or a.outerUrl a.innerUrl
  have hempty : a.outerUrl = some "" → (a.outerUrl.or a.innerUrl).filter (!·.isEmpty) = none := by
    intro h
    rw [h]
    rfl
  refine ⟨_, read_of_said hbody hsaid htoken hne, hfirst, hempty, fun s hscheme => ?_⟩
  generalize (a.outerUrl.or a.innerUrl).filter (!·.isEmpty) = base at hfirst hempty hscheme ⊢
  obtain ⟨hheader, happlies⟩ := scheme_eq_ok hscheme
  refine ⟨hheader, fun u hu more => ?_⟩
  have hbase : base ∈ [some u, none] := by
    by_cases h : a.outerUrl = some ""
    · simp [hempty h]
    · simp [(hfirst.2 fun hboth => h hboth.1).unique hu]
  calc Broker.choose ⟨none, some s⟩ (u ++ "/" ++ more) = .provider s
      ↔ s.appliesTo (u ++ "/" ++ more) = true := by simp [Broker.choose]
    _ ↔ (⟨token, base⟩ : Grant).Covers (u ++ "/" ++ more) := happlies _
    _ ↔ _ := covers_continued hbase hu.ne_empty

/-! An answer that tells both URLs, the one at the top or an empty text. -/

def twoUrlsBody (outer : String) : Bytes :=
  Utf8.encode ("\x7b\"authorizationToken\":\"t\",\"downloadUrl\":\"" ++ outer ++
    "\",\"apiInfo\":\x7b\"storageApi\":\x7b\"downloadUrl\":\"http://d\"\x7d\x7d\x7d")

theorem download_base_is_first_usable_iff_sample :
    ∃ base, read sampleComplaint "b2" (twoUrlsBody "") = .ok ⟨"t", base⟩ ∧
      ¬FirstUsable (some "") (some "http://d") base ∧
      ∀ s, scheme ⟨"t", base⟩ = .ok s →
        Broker.choose ⟨none, some s⟩ ("http://d" ++ "/" ++ "a") ≠ .provider s := by
  obtain ⟨v, hv⟩ := Option.isSome_iff_exists.1
    (show (Json.parse? (twoUrlsBody "")).isSome = true by decide +kernel)
  have hsaid : Says v ⟨some "t", some "", some "http://d"⟩ := by
    refine ofJson?_eq_some.1 ?_
    rw [← Option.bind_some (f := Answer.ofJson?), ← hv]
    decide +kernel
  obtain ⟨base, hread, hfirst, hempty, hscheme⟩ :=
    download_base_is_first_usable_iff sampleComplaint "b2" (Json.parse?_eq_some.1 hv) hsaid rfl (by decide)
  have husable : ¬IsUseless (some "http://d") := fun h => absurd (h _ rfl) (by decide)
  refine ⟨base, hread, fun h => hfirst.1 h ⟨rfl, husable⟩, fun s hs hchosen => ?_⟩
  obtain rfl := hempty rfl
  have hu : FirstUsable (some "") (some "http://d") (some "http://d") :=
    .nested (by simp [IsUseless]) rfl (by decide)
  have hhost : ProviderScheme.isHostIn providerDomain ("http://d" ++ "/" ++ "a") = true := by
    rw [ProviderScheme.isHostIn_iff, asciiLower_providerDomain]
    exact (((hscheme s hs).2 _ hu "a").1 hchosen).resolve_left nofun
  exact absurd hhost (by decide +kernel)

/-- With an empty URL at the top, a URL further in that can be used is not the base. -/
theorem empty_url_hides_nested_one :
    (Json.parse? (twoUrlsBody "")).bind Answer.ofJson? =
        some ⟨some "t", some "", some "http://d"⟩ ∧
      read sampleComplaint "b2" (twoUrlsBody "") = .ok ⟨"t", none⟩ ∧
      FirstUsable (some "") (some "http://d") (some "http://d") := by
  refine ⟨by decide +kernel, by decide +kernel, .nested (by simp [IsUseless]) rfl (by decide)⟩

end Prelaunch.Grant
