import Prelaunch.Proofs.Credential
import Prelaunch.Proofs.UrlContinuation

/-!
The hosts that the token of a provider is for. Whether a URL lies under the download base is a
question about its text, while the request goes to the host that is parsed from it; the boundary
that is asked for after the base makes the two agree.
-/

namespace Prelaunch

namespace ProviderScheme

variable {base url : String} {u v : Url}

/-- What follows the base of a URL under it. Blanks at the end of the base stay before a new part. -/
theorem LiesUnder.cases_clean (h : LiesUnder base url) (hbase : Url.clean base ≠ []) :
    url = base ∨
      ((Url.clean base).getLast? = some '/' ∧ ∃ more, Url.clean url = Url.clean base ++ more) ∨
      ∃ mark more, (mark = '/' ∨ mark = '?' ∨ mark = '#') ∧
        Url.clean url = Url.clean base ++ (Url.endBlanks base ++ mark :: more) := by
  obtain ⟨rest, rfl, rfl | hslash | ⟨mark, hmark, more, rfl⟩⟩ := h
  · exact .inl String.append_empty
  · exact .inr (.inl (Url.clean_append_of_slash hslash))
  · refine .inr (.inr ?_)
    have hcons (c : Char) : (String.singleton c ++ more).toList = c :: more.toList := by simp
    obtain rfl | rfl | rfl : mark = "/" ∨ mark = "?" ∨ mark = "#" := by simpa using hmark
    · obtain ⟨after, hclean⟩ := Url.clean_append_of_mark hbase (hcons '/') (.inl rfl)
      exact ⟨'/', after, .inl rfl, hclean⟩
    · obtain ⟨after, hclean⟩ := Url.clean_append_of_mark hbase (hcons '?') (.inr (.inl rfl))
      exact ⟨'?', after, .inr (.inl rfl), hclean⟩
    · obtain ⟨after, hclean⟩ := Url.clean_append_of_mark hbase (hcons '#') (.inr (.inr rfl))
      exact ⟨'#', after, .inr (.inr rfl), hclean⟩

theorem LiesUnder.continues (h : LiesUnder base url) (hbase : Url.clean base ≠ []) :
    url = base ∨ ∃ blanks more, Url.clean url = Url.clean base ++ (blanks ++ more) ∧
      Url.Continues (Url.clean base) blanks more := by
  obtain hsame | ⟨hslash, more, hclean⟩ | ⟨mark, more, hmark, hclean⟩ := h.cases_clean hbase
  · exact .inl hsame
  · exact .inr ⟨[], more, hclean, nofun, .inl ⟨rfl, hslash⟩⟩
  · refine .inr ⟨_, _, hclean, fun _ hc => Url.isTrimmed_of_mem_endBlanks hc,
      .inr ⟨mark, more, rfl, Url.endsAuthority_iff.2 ?_⟩⟩
    rcases hmark with rfl | rfl | rfl <;> simp

theorem clean_ne_nil_of_parse (hbase : Url.parse base = .ok v) : Url.clean base ≠ [] := by
  intro hnil
  rw [Url.parse, hnil] at hbase
  cases hbase

/-- A URL under a web base goes where the base goes. -/
theorem LiesUnder.sharesOrigin (h : LiesUnder base url) (hbase : Url.parse base = .ok v)
    (hweb : v.isFetchable = true) (hurl : Url.parse url = .ok u) : u.SharesOrigin v := by
  obtain rfl | ⟨blanks, more, hclean, hcontinues⟩ := h.continues (clean_ne_nil_of_parse hbase)
  · obtain rfl := Except.ok.inj (hurl.symm.trans hbase)
    exact ⟨rfl, rfl, rfl⟩
  · exact Url.origin_of_continued hbase hweb hurl hclean hcontinues

/-- The download base, if there is one, is the text of a web URL. -/
def HasWebBase (s : ProviderScheme) : Prop :=
  ∀ base, s.downloadBase = some base → ∃ v, Url.parse base = .ok v ∧ v.isFetchable = true

/-- The URL goes to the host of the base, or to one in the domain. -/
def OwnsHostOf (s : ProviderScheme) (u : Url) : Prop :=
  (∃ base v, s.downloadBase = some base ∧ Url.parse base = .ok v ∧ u.SharesOrigin v) ∨
    ∃ host, u.hostText? = some host ∧
      (host = Text.asciiLower s.domain ∨ ∃ sub, host = sub ++ "." ++ Text.asciiLower s.domain)

/-- User info, path, query and fragment have no part in it. -/
theorem OwnsHostOf.of_sharesOrigin {s : ProviderScheme} (hv : s.OwnsHostOf v)
    (h : u.SharesOrigin v) : s.OwnsHostOf u := by
  obtain ⟨base, w, hsome, hw, horigin⟩ | ⟨host, hhost, hdomain⟩ := hv
  · exact .inl ⟨base, w, hsome, hw, h.trans horigin⟩
  · exact .inr ⟨host, h.hostText?_eq.trans hhost, hdomain⟩

theorem ownsHostOf_of_appliesTo {s : ProviderScheme} (hbase : s.HasWebBase)
    (hurl : Url.parse url = .ok u) (happlies : s.appliesTo url = true) : s.OwnsHostOf u := by
  unfold appliesTo at happlies
  rcases Bool.or_eq_true_iff.1 happlies with hunder | hhost
  · obtain ⟨base, hsome, hunder⟩ := (Option.any_eq_true _ _).1 hunder
    obtain ⟨v, hv, hweb⟩ := hbase base hsome
    exact .inl ⟨base, v, hsome, hv, (isUnder_iff.1 hunder).sharesOrigin hv hweb hurl⟩
  · obtain ⟨u', host, hurl', hhost, hdomain⟩ := isHostIn_iff.1 hhost
    obtain rfl := Except.ok.inj (hurl.symm.trans hurl')
    exact .inr ⟨host, hhost, hdomain⟩

/-- A scheme applies only to URLs of its own hosts. At any other scheme, host and port it applies to
none, wherever in its text the base or the domain may occur. -/
theorem applies_to_own_hosts {s : ProviderScheme} (hbase : s.HasWebBase)
    (hurl : Url.parse url = .ok u) :
    (s.appliesTo url = true → s.OwnsHostOf u) ∧
      ∀ foreign, u.SharesOrigin foreign → ¬ s.OwnsHostOf foreign → s.appliesTo url = false := by
  refine ⟨ownsHostOf_of_appliesTo hbase hurl, fun foreign horigin hforeign => ?_⟩
  refine Bool.eq_false_iff.2 fun happlies => hforeign ?_
  exact (ownsHostOf_of_appliesTo hbase hurl happlies).of_sharesOrigin horigin.symm

def sampleScheme : ProviderScheme :=
  ⟨⟨"authorization", Utf8.encode "t", true⟩, some "http://C:80", "B"⟩

theorem applies_to_own_hosts_sample :
    sampleScheme.OwnsHostOf
        ⟨"http", "", "", some (.domain "c"), none, .segments [""], some "x@d/", none⟩ ∧
      sampleScheme.appliesTo "http://C:80@b.d/?b" = false := by
  have hv : Url.parse "http://C:80" =
      .ok ⟨"http", "", "", some (.domain "c"), none, .segments [""], none, none⟩ := by
    decide +kernel
  have hbase : sampleScheme.HasWebBase := by
    intro base hsome
    obtain rfl : "http://C:80" = base := Option.some.inj hsome
    exact ⟨_, hv, rfl⟩
  have hnear : Url.parse "http://C:80?x@d/" =
      .ok ⟨"http", "", "", some (.domain "c"), none, .segments [""], some "x@d/", none⟩ := by
    decide +kernel
  have hfar : Url.parse "http://C:80@b.d/?b" =
      .ok ⟨"http", "C", "80", some (.domain "b.d"), none, .segments [""], some "b", none⟩ := by
    decide +kernel
  refine ⟨(applies_to_own_hosts hbase hnear).1 (by decide +kernel),
    (applies_to_own_hosts hbase hfar).2 _ ⟨rfl, rfl, rfl⟩ ?_⟩
  rintro (⟨base, v, hsome, hparse, -, hhost, -⟩ | ⟨host, hhost, hdomain⟩)
  · obtain rfl : "http://C:80" = base := Option.some.inj hsome
    obtain rfl := Except.ok.inj (hparse.symm.trans hv)
    exact absurd hhost (by decide)
  · obtain rfl : "b.d" = host := Option.some.inj hhost
    rcases hdomain with hsame | ⟨sub, hsub⟩
    · exact absurd hsame (by decide)
    · have hends : Text.endsWith ".b" "b.d" = true :=
        Text.endsWith_iff.2 ⟨sub, by rw [hsub, String.append_assoc]; rfl⟩
      exact absurd hends (by decide)

/-- A blank that ends the base is no part of its host, and of no other host either. -/
example : isUnder "http://h " "http://h /x" = true ∧
    Url.parse "http://h /x" = .error .invalidDomain := by
  decide +kernel

end ProviderScheme

end Prelaunch
