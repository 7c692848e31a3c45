import Mathlib.Data.List.Basic
import Prelaunch.Account

/-!
Which URLs the token of a provider is for. The matching of texts and hosts comes to a property of
the URL, so that the choice of a broker can be read off the settings and the provider's answer.
-/

namespace Prelaunch

namespace Text

variable {start ending s rest : String}

theorem dropStart?_eq_some : dropStart? start s = some rest ↔ s = start ++ rest := by
  unfold dropStart?
  rw [Option.map_eq_some_iff]
  constructor
  · rintro ⟨cs, hcs, rfl⟩
    rw [List.isPrefixOf?_eq_some_iff_append_eq] at hcs
    simp [← String.toList_inj, hcs]
  · rintro rfl
    exact ⟨rest.toList, by simp [List.isPrefixOf?_eq_some_iff_append_eq], by simp⟩

theorem startsWith_iff : startsWith start s = true ↔ ∃ rest, s = start ++ rest := by
  rw [startsWith, List.isPrefixOf_iff_prefix]
  constructor
  · rintro ⟨cs, hcs⟩
    exact ⟨String.ofList cs, by simp [← String.toList_inj, hcs]⟩
  · rintro ⟨rest, rfl⟩
    simp

theorem endsWith_iff : endsWith ending s = true ↔ ∃ before, s = before ++ ending := by
  rw [endsWith, List.isSuffixOf_iff_suffix]
  constructor
  · rintro ⟨cs, hcs⟩
    exact ⟨String.ofList cs, by simp [← String.toList_inj, hcs]⟩
  · rintro ⟨before, rfl⟩
    simp

end Text

namespace ProviderScheme

variable {base domain url : String}

/-- The URL is the base, or continues it where a new part begins. -/
def LiesUnder (base url : String) : Prop :=
  ∃ rest, url = base ++ rest ∧
    (rest = "" ∨ (∃ before, base = before ++ "/") ∨
      ∃ mark ∈ ["/", "?", "#"], ∃ more, rest = mark ++ more)

/-- The host of the URL is the domain or ends in it after a dot. -/
def HasHostIn (domain url : String) : Prop :=
  ∃ u host, Url.parse url = .ok u ∧ u.hostText? = some host ∧
    (host = domain ∨ ∃ sub, host = sub ++ "." ++ domain)

theorem isUnder_iff : isUnder base url = true ↔ LiesUnder base url := by
  unfold isUnder LiesUnder
  split
  · rename_i hnone
    refine ⟨nofun, ?_⟩
    rintro ⟨rest, hrest, -⟩
    rw [Text.dropStart?_eq_some.2 hrest] at hnone
    cases hnone
  · rename_i rest hsome
    -- the rest after the base is the only one there can be
    have hrest := Text.dropStart?_eq_some.1 hsome
    constructor
    · intro h
      refine ⟨rest, hrest, ?_⟩
      simpa [Text.endsWith_iff, Text.startsWith_iff, or_assoc, or_left_comm] using h
    · rintro ⟨rest', hrest', h⟩
      obtain rfl : rest = rest' := by simpa [hrest] using hrest'
      simpa [Text.endsWith_iff, Text.startsWith_iff, or_assoc, or_left_comm] using h

theorem isHostIn_iff : isHostIn domain url = true ↔ HasHostIn (Text.asciiLower domain) url := by
  unfold isHostIn HasHostIn
  cases Url.parse url with
  | error e => simp
  | ok u =>
      cases hhost : u.hostText? with
      | none => simp [hhost]
      | some host => simp [hhost, Text.endsWith_iff, String.append_assoc]

end ProviderScheme

namespace Grant

/-- The token of the grant is for the URL. -/
def Covers (g : Grant) (url : String) : Prop :=
  (∃ base, g.downloadBase = some base ∧ base ≠ "" ∧ ProviderScheme.LiesUnder base url) ∨
    ProviderScheme.HasHostIn providerDomain url

/-- The field that carries the token. -/
def tokenHeader (g : Grant) : Header := ⟨"authorization", Utf8.encode g.token, true⟩

theorem asciiLower_providerDomain : Text.asciiLower providerDomain = providerDomain := by
  decide +kernel

/-- The scheme of a grant attaches its token, and exactly where the token is for the URL. -/
theorem scheme_eq_ok {g : Grant} {s : ProviderScheme} (h : g.scheme = .ok s) :
    s.header = g.tokenHeader ∧ ∀ url, s.appliesTo url = true ↔ g.Covers url := by
  unfold scheme Header.authorization Header.value? at h
  split at h
  · rename_i header hvalue
    dsimp only at hvalue
    split at hvalue
    · obtain rfl := Except.ok.inj hvalue
      obtain rfl := Except.ok.inj h
      refine ⟨rfl, fun url => ?_⟩
      unfold ProviderScheme.appliesTo ProviderScheme.make Covers
      rw [Bool.or_eq_true, ProviderScheme.isHostIn_iff, asciiLower_providerDomain]
      simp [Option.any_eq_true, ProviderScheme.isUnder_iff]
    · cases hvalue
  · cases h

end Grant

/-- Either the scheme is chosen, and without it nothing would be, or it makes no difference. -/
theorem Broker.choose_cases (explicit : Option Header) (scheme : ProviderScheme) (url : String) :
    (choose ⟨explicit, some scheme⟩ url = .provider scheme ∧
        choose ⟨explicit, none⟩ url = .nothing) ∨
      (choose ⟨explicit, some scheme⟩ url = choose ⟨explicit, none⟩ url ∧
        ∀ s, choose ⟨explicit, none⟩ url ≠ .provider s) := by
  cases explicit with
  | some header => exact .inr ⟨rfl, nofun⟩
  | none =>
      cases happlies : scheme.appliesTo url with
      | true => exact .inl ⟨by simp [choose, happlies], rfl⟩
      | false => exact .inr ⟨by simp [choose, happlies], nofun⟩

end Prelaunch
