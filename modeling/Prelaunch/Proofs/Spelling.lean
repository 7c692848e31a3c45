import Prelaunch.Proofs.ProviderHosts
import Prelaunch.Proofs.UrlDescent

/-!
One URL in several spellings. The host that decides on the token is the parsed one, while the base
is looked for in the text as it was written, before dots and letter case are taken out of it. So two
spellings of one URL may be treated differently, and a URL may leave by dots the base that its text
lies under.
-/

namespace Prelaunch

open Url (Extends GoesOn climbs segmentsBehind)

namespace ProviderScheme

variable {base url : String} {u v : Url}

theorem liesUnder_iff_extends : LiesUnder base url ↔ Extends url.toList base.toList := by
  have hslash : (∃ before, base = before ++ "/") ↔ base.toList.getLast? = some '/' := by
    rw [List.getLast?_eq_some_iff]
    constructor
    · rintro ⟨before, rfl⟩
      exact ⟨before.toList, by simp⟩
    · rintro ⟨before, hbefore⟩
      exact ⟨String.ofList before, by simp [← String.toList_inj, hbefore]⟩
  have hmark (rest : String) : (∃ mark ∈ ["/", "?", "#"], ∃ more, rest = mark ++ more) ↔
      ∃ mark after, rest.toList = mark :: after ∧ (mark = '/' ∨ mark = '?' ∨ mark = '#') := by
    constructor
    · rintro ⟨mark, hmark, more, rfl⟩
      obtain rfl | rfl | rfl : mark = "/" ∨ mark = "?" ∨ mark = "#" := by simpa using hmark
      · exact ⟨'/', more.toList, by simp, by simp⟩
      · exact ⟨'?', more.toList, by simp, by simp⟩
      · exact ⟨'#', more.toList, by simp, by simp⟩
    · rintro ⟨mark, after, hrest, hmark⟩
      refine ⟨String.singleton mark, ?_, String.ofList after, by simp [← String.toList_inj, hrest]⟩
      rcases hmark with rfl | rfl | rfl <;> decide
  constructor
  · rintro ⟨rest, rfl, h⟩
    refine ⟨rest.toList, String.toList_append, ?_⟩
    rw [hslash, hmark] at h
    exact h.imp_left fun hempty => by simp [hempty]
  · rintro ⟨more, hurl, h⟩
    refine ⟨String.ofList more, by simp [← String.toList_inj, hurl], ?_⟩
    rw [hslash, hmark, String.toList_ofList]
    exact h.imp_left fun hnil => by rw [hnil]

/-- The segments of the URL behind those of its base climb above it. Tabs and line breaks are left
out, and dots may be written with `%2e`. -/
def ClimbsOut (base url : String) : Prop :=
  climbs 0 (segmentsBehind (Url.clean base) ((Url.clean url).drop (Url.clean base).length)) = true

theorem LiesUnder.goesOn (h : LiesUnder base url) (hbase : Url.clean base ≠ [])
    (hblanks : Url.endBlanks base = []) :
    url = base ∨ ∃ more, Url.clean url = Url.clean base ++ more ∧ GoesOn (Url.clean base) more := by
  obtain hsame | ⟨hslash, more, hclean⟩ | ⟨mark, more, hmark, hclean⟩ := h.cases_clean hbase
  · exact .inl hsame
  · exact .inr ⟨more, hclean, .inl hslash⟩
  · rw [hblanks, List.nil_append] at hclean
    exact .inr ⟨mark :: more, hclean, .inr ⟨mark, more, rfl, hmark⟩⟩

/-- A URL whose text lies under that of a web base goes where the base goes, as the same user. -/
theorem LiesUnder.sharesAuthority (h : LiesUnder base url) (hbase : Url.parse base = .ok v)
    (hweb : v.isFetchable = true) (hurl : Url.parse url = .ok u) : u.SharesAuthority v := by
  obtain rfl | ⟨blanks, more, hclean, hcontinues⟩ := h.continues (clean_ne_nil_of_parse hbase)
  · obtain rfl := Except.ok.inj (hurl.symm.trans hbase)
    exact ⟨rfl, rfl, rfl, rfl, rfl⟩
  · exact Url.sharesAuthority_of_continued hbase hweb hurl hclean hcontinues

/-- It lies under the base still when both are normalised, unless blanks end the base or it climbs
out of the path that the base ends in. -/
theorem LiesUnder.normalised (h : LiesUnder base url) (hbase : Url.parse base = .ok v)
    (hweb : v.isFetchable = true) (hurl : Url.parse url = .ok u)
    (hblanks : Url.endBlanks base = []) : LiesUnder v.text u.text ∨
      v.query = none ∧ v.fragment = none ∧ v.path ≠ .segments [""] ∧ ClimbsOut base url := by
  obtain rfl | ⟨more, hclean, hmore⟩ := h.goesOn (clean_ne_nil_of_parse hbase) hblanks
  · obtain rfl := Except.ok.inj (hurl.symm.trans hbase)
    exact .inl (liesUnder_iff_extends.2 (.refl _))
  · rw [liesUnder_iff_extends, ClimbsOut, hclean, List.drop_left]
    exact Url.extends_of_goesOn hbase hweb hurl hclean hmore

/-- The host is looked for in the parsed URL. -/
theorem hasHostIn_congr {domain one other : String} (hone : Url.parse one = .ok u)
    (hother : Url.parse other = .ok u) : HasHostIn domain one ↔ HasHostIn domain other := by
  unfold HasHostIn
  rw [hone, hother]

theorem appliesTo_iff {s : ProviderScheme} : s.appliesTo url = true ↔
    (∃ base, s.downloadBase = some base ∧ LiesUnder base url) ∨
      HasHostIn (Text.asciiLower s.domain) url := by
  rw [appliesTo, Bool.or_eq_true, isHostIn_iff, Option.any_eq_true]
  simp only [isUnder_iff]

/-- If the host of the base is in the domain, then nothing but the parsed URL decides. -/
theorem appliesTo_iff_hasHostIn {s : ProviderScheme} (hurl : Url.parse url = .ok u)
    (hbase : ∀ base, s.downloadBase = some base → ∃ v, Url.parse base = .ok v ∧
      v.isFetchable = true ∧ HasHostIn (Text.asciiLower s.domain) base) :
    s.appliesTo url = true ↔ HasHostIn (Text.asciiLower s.domain) url := by
  rw [appliesTo_iff, or_iff_right_iff_imp]
  rintro ⟨base, hsome, hunder⟩
  obtain ⟨v, hv, hweb, v', host, hv', hhost, hdomain⟩ := hbase base hsome
  obtain rfl := Except.ok.inj (hv.symm.trans hv')
  have horigin := hunder.sharesOrigin hv hweb hurl
  exact ⟨u, host, hurl, horigin.hostText?_eq.trans hhost, hdomain⟩

end ProviderScheme

namespace Broker

open ProviderScheme

variable {b : Broker} {one other : String} {u : Url}

theorem choose_eq_iff_appliesTo : b.choose one = b.choose other ↔
    ∀ s, b.explicit = none → b.provider = some s → (s.appliesTo one ↔ s.appliesTo other) := by
  obtain ⟨explicit, provider⟩ := b
  cases explicit with
  | some header => simp [choose]
  | none =>
      cases provider with
      | none => simp [choose]
      | some s => cases hone : s.appliesTo one <;> cases hother : s.appliesTo other <;>
          simp [choose, hone, hother]

/-- Two spellings of one URL are treated differently exactly if there is only a scheme to choose, the
host is not in its domain, and one spelling alone lies under its base. -/
theorem choose_eq_iff (hone : Url.parse one = .ok u) (hother : Url.parse other = .ok u) :
    b.choose one = b.choose other ↔
      ∀ s base, b.explicit = none → b.provider = some s → s.downloadBase = some base →
        ¬HasHostIn (Text.asciiLower s.domain) one → (LiesUnder base one ↔ LiesUnder base other) := by
  rw [choose_eq_iff_appliesTo]
  constructor
  · intro h s base hexplicit hprovider hbase hhost
    have happlies := h s hexplicit hprovider
    rw [appliesTo_iff, appliesTo_iff, ← hasHostIn_congr hone hother, or_iff_left hhost,
      or_iff_left hhost] at happlies
    simpa [hbase] using happlies
  · intro h s hexplicit hprovider
    rw [appliesTo_iff, appliesTo_iff, ← hasHostIn_congr hone hother]
    by_cases hhost : HasHostIn (Text.asciiLower s.domain) one
    · simp [hhost]
    · refine or_congr_left (exists_congr fun base => and_congr_right fun hbase => ?_)
      exact h s base hexplicit hprovider hbase hhost

/-- If the host of every base is in the domain, the parsed URL alone decides. -/
theorem choose_congr (hone : Url.parse one = .ok u) (hother : Url.parse other = .ok u)
    (hbase : ∀ s base, b.provider = some s → s.downloadBase = some base → ∃ v,
      Url.parse base = .ok v ∧ v.isFetchable = true ∧
        HasHostIn (Text.asciiLower s.domain) base) : b.choose one = b.choose other := by
  refine choose_eq_iff_appliesTo.2 fun s _ hprovider => ?_
  have hbases := fun base => hbase s base hprovider
  rw [appliesTo_iff_hasHostIn hone hbases, appliesTo_iff_hasHostIn hother hbases,
    hasHostIn_congr hone hother]

/-- The choice between two spellings of one URL is the same unless the host is outside the domain and
one spelling alone lies under the base. What lies under a web base goes to its server as its user,
and lies under it when both are normalised, unless it climbs out of a path that ends the base or
blanks end the base. -/
theorem choice_follows_spelling :
    (∀ (b : Broker) (one other : String) (u : Url), Url.parse one = .ok u →
      Url.parse other = .ok u →
        (b.choose one = b.choose other ↔
          ∀ s base, b.explicit = none → b.provider = some s → s.downloadBase = some base →
            ¬HasHostIn (Text.asciiLower s.domain) one →
              (LiesUnder base one ↔ LiesUnder base other)) ∧
        ((∀ s base, b.provider = some s → s.downloadBase = some base → ∃ v,
          Url.parse base = .ok v ∧ v.isFetchable = true ∧
            HasHostIn (Text.asciiLower s.domain) base) → b.choose one = b.choose other)) ∧
      ∀ (base url : String) (u v : Url), Url.parse base = .ok v → v.isFetchable = true →
        Url.parse url = .ok u → isUnder base url = true →
          u.SharesAuthority v ∧
          (Url.endBlanks base = [] → isUnder v.text u.text = true ∨
            v.query = none ∧ v.fragment = none ∧ v.path ≠ .segments [""] ∧ ClimbsOut base url) := by
  refine ⟨fun b one other u hone hother => ⟨choose_eq_iff hone hother, choose_congr hone hother⟩, ?_⟩
  intro base url u v hbase hweb hurl hunder
  have hlies := isUnder_iff.1 hunder
  refine ⟨hlies.sharesAuthority hbase hweb hurl, fun hblanks => ?_⟩
  rw [isUnder_iff]
  exact hlies.normalised hbase hweb hurl hblanks

def sampleBroker (base : String) : Broker :=
  ⟨none, some ⟨⟨"authorization", Utf8.encode "t", true⟩, some base, "B"⟩⟩

theorem choice_follows_spelling_sample :
    (sampleBroker "http://h/a").choose "http://h/a/x" ≠
        (sampleBroker "http://h/a").choose "http://h:80/a/./x" ∧
      (sampleBroker "http://f.b/a").choose "http://f.b/a/x" =
        (sampleBroker "http://f.b/a").choose "HTTP://F.B:80/a/\t./x" ∧
      isUnder "http://h/a" "http://h/a/d?q" = true := by
  have hone : Url.parse "http://h/a/x" =
      .ok ⟨"http", "", "", some (.domain "h"), none, .segments ["a", "x"], none, none⟩ := by
    decide +kernel
  have hother : Url.parse "http://h:80/a/./x" =
      .ok ⟨"http", "", "", some (.domain "h"), none, .segments ["a", "x"], none, none⟩ := by
    decide +kernel
  have hlower : Url.parse "http://f.b/a/x" =
      .ok ⟨"http", "", "", some (.domain "f.b"), none, .segments ["a", "x"], none, none⟩ := by
    decide +kernel
  have hupper : Url.parse "HTTP://F.B:80/a/\t./x" =
      .ok ⟨"http", "", "", some (.domain "f.b"), none, .segments ["a", "x"], none, none⟩ := by
    decide +kernel
  have hbase : Url.parse "http://h/a" =
      .ok ⟨"http", "", "", some (.domain "h"), none, .segments ["a"], none, none⟩ := by
    decide +kernel
  have hdots : Url.parse "http://h/a/c/%2E./d?q" =
      .ok ⟨"http", "", "", some (.domain "h"), none, .segments ["a", "d"], some "q", none⟩ := by
    decide +kernel
  refine ⟨fun hsame => ?_, ?_, ?_⟩
  · have hiff := (choice_follows_spelling.1 _ _ _ _ hone hother).1.1 hsame _ _ rfl rfl rfl
      (by rw [← isHostIn_iff]; decide +kernel)
    rw [← isUnder_iff, ← isUnder_iff] at hiff
    exact absurd hiff (by decide +kernel)
  · refine (choice_follows_spelling.1 _ _ _ _ hlower hupper).2 fun s base hprovider hsome => ?_
    obtain rfl := Option.some.inj hprovider
    obtain rfl : "http://f.b/a" = base := Option.some.inj hsome
    exact ⟨⟨"http", "", "", some (.domain "f.b"), none, .segments ["a"], none, none⟩,
      by decide +kernel, rfl, isHostIn_iff.1 (by decide +kernel)⟩
  · obtain ⟨-, hunder⟩ := choice_follows_spelling.2 _ _ _ _ hbase rfl hdots (by decide +kernel)
    have hstays : ¬ClimbsOut "http://h/a" "http://h/a/c/%2E./d?q" := by
      unfold ClimbsOut
      decide +kernel
    obtain hunder | ⟨-, -, -, hclimbs⟩ := hunder (by decide +kernel)
    · exact hunder
    · exact absurd hclimbs hstays

/-- Letter case moves a URL out of its base, and dots or a blank at the end of the base move its
normalised text out. -/
theorem spelling_changes_choice :
    (Url.parse "http://h/a/x" = Url.parse "HTTP://h/a/x" ∧ (Url.parse "http://h/a/x").isOk ∧
      (sampleBroker "http://h/a").choose "http://h/a/x" ≠
        (sampleBroker "http://h/a").choose "HTTP://h/a/x") ∧
      (∃ u v, Url.parse "http://h/a/../b" = .ok u ∧ Url.parse "http://h/a" = .ok v ∧
        v.isFetchable = true ∧ isUnder "http://h/a" "http://h/a/../b" = true ∧
          isUnder v.text u.text = false) ∧
      ∃ u v, Url.parse "http://h/a /b" = .ok u ∧ Url.parse "http://h/a " = .ok v ∧
        v.isFetchable = true ∧ isUnder "http://h/a " "http://h/a /b" = true ∧
          isUnder v.text u.text = false := by
  refine ⟨⟨by decide +kernel, by decide +kernel, by decide +kernel⟩, ?_, ?_⟩
  · exact ⟨⟨"http", "", "", some (.domain "h"), none, .segments ["b"], none, none⟩,
      ⟨"http", "", "", some (.domain "h"), none, .segments ["a"], none, none⟩,
      by decide +kernel, by decide +kernel, rfl, by decide +kernel, by decide +kernel⟩
  · exact ⟨⟨"http", "", "", some (.domain "h"), none, .segments ["a%20", "b"], none, none⟩,
      ⟨"http", "", "", some (.domain "h"), none, .segments ["a"], none, none⟩,
      by decide +kernel, by decide +kernel, rfl, by decide +kernel, by decide +kernel⟩

end Broker

end Prelaunch
