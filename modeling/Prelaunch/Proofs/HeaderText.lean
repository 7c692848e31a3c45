import Prelaunch.Proofs.HeaderField
import Prelaunch.Proofs.Utf8.RoundTrip

/-!
Header fields as texts. The texts that are read as one field differ in the case of the name and in
the blanks around the name and the value, and in nothing else. A token makes the same field whether
it is taken as a value or written behind the name.
-/

namespace Prelaunch.Header

variable {raw text name value before after token : String} {h : Header}

theorem isName_of_asciiLower_eq {name' : String} (hname : IsName name)
    (hsame : Text.asciiLower name' = Text.asciiLower name) : IsName name' := by
  have htoken : IsToken name' :=
    isToken_asciiLower_iff.1 (hsame ▸ hname.toIsToken.asciiLower)
  have hlength : name'.toList.length = name.toList.length := by
    simpa [Text.asciiLower] using congrArg (·.toList.length) hsame
  refine ⟨htoken, ?_⟩
  rw [htoken.length_encode, hlength, ← hname.length_encode]
  exact hname.length_le

theorem IsToken.isTrimmed (htoken : IsToken name) : Text.IsTrimmed name := by
  refine Text.isTrimmed_of_forall fun c hc => ?_
  have hvisible := htoken.visible c hc
  have hall : ∀ n < 0x7F, 0x21 ≤ n → Text.isBlank (Char.ofNat n) = false := by decide
  simpa using hall c.toNat (by omega) hvisible.1

/-- A field that has been read is read from a text exactly if this spells its name in any case and
its value as it is. -/
theorem parse_eq_ok_iff_spells (hparse : parse raw = .ok h) :
    parse text = .ok h ↔ ∃ name value, Spells text name value ∧
      Text.asciiLower name = h.name ∧ Utf8.encode value = h.value := by
  obtain ⟨name, value, -, hname, hvalue, rfl⟩ := parse_eq_ok.1 hparse
  constructor
  · intro htext
    obtain ⟨name', value', hspells, -, -, heq⟩ := parse_eq_ok.1 htext
    obtain ⟨hlower, hencode, -⟩ := Header.mk.inj heq
    exact ⟨name', value', hspells, hlower.symm, hencode.symm⟩
  · rintro ⟨name', value', hspells, hlower, hencode⟩
    dsimp only at hlower hencode
    rw [parse_of_isName hspells (isName_of_asciiLower_eq hname hlower) (hencode ▸ hvalue), hlower,
      hencode]

/-- A name and a value without blanks around them are what their text spells. -/
theorem spells_append (hname : IsToken name) (hvalue : Text.IsTrimmed value)
    (hbefore : Text.IsAllBlank before) (hafter : Text.IsAllBlank after) :
    Spells (name ++ ":" ++ before ++ value ++ after) name value := by
  refine ⟨name, before ++ value ++ after, by simp only [String.append_assoc],
    hname.notMem_colon, ?_, hvalue.isPadded hbefore hafter⟩
  simpa using hname.isTrimmed.isPadded Text.isAllBlank_empty Text.isAllBlank_empty

theorem isTrimmed_of_parse (hparse : parse raw = .ok h) (hvalue : Utf8.encode value = h.value) :
    Text.IsTrimmed value := by
  obtain ⟨name, value', ⟨_, _, -, -, -, hpadded⟩, -, -, rfl⟩ := parse_eq_ok.1 hparse
  obtain rfl : value = value' := Utf8.encode_inj.1 hvalue
  exact hpadded.isTrimmed

theorem isName_authorization : IsName "Authorization" := isName_iff.1 (by decide +kernel)

theorem parse_authorization (htoken : Text.IsTrimmed token) :
    parse ("Authorization: " ++ token) = authorization token := by
  have hspells : Spells ("Authorization" ++ ":" ++ " " ++ token ++ "") "Authorization" token :=
    spells_append isName_authorization.toIsToken htoken (by decide) Text.isAllBlank_empty
  have htext : "Authorization: " ++ token = "Authorization" ++ ":" ++ " " ++ token ++ "" := by
    simp
  rw [htext, parse_of_spells hspells, if_neg (by decide),
    if_pos (isName_iff.2 isName_authorization)]
  rfl

/-- A field is read back from its name in any case, a colon and its value, with blanks on both sides
of the value. A token without blanks around it makes one field, or is refused as a value, whether it
is taken as the value of `Authorization` or read behind this name. -/
theorem fields_read_back_from_their_texts :
    (∀ raw h, parse raw = .ok h → ∃ value, Utf8.encode value = h.value ∧
      ∀ name before after, Text.asciiLower name = h.name → Text.IsAllBlank before →
        Text.IsAllBlank after → parse (name ++ ":" ++ before ++ value ++ after) = .ok h) ∧
    ∀ token, Text.IsTrimmed token →
      authorization token = parse ("Authorization: " ++ token) ∧
      (IsValue (Utf8.encode token) →
        authorization token = .ok ⟨"authorization", Utf8.encode token, true⟩) ∧
      (¬ IsValue (Utf8.encode token) → authorization token = .error .invalidValue) := by
  refine ⟨fun raw h hparse => ?_, fun token htoken => ⟨(parse_authorization htoken).symm, ?_, ?_⟩⟩
  · obtain ⟨name, value, -, hname, -, rfl⟩ := parse_eq_ok.1 hparse
    refine ⟨value, rfl, fun name' before after hlower hbefore hafter => ?_⟩
    have hname' := isName_of_asciiLower_eq hname hlower
    have hspells : Spells (name' ++ ":" ++ before ++ value ++ after) name' value :=
      spells_append hname'.toIsToken (isTrimmed_of_parse hparse rfl) hbefore hafter
    exact (parse_eq_ok_iff_spells hparse).2 ⟨name', value, hspells, hlower, rfl⟩
  · intro hvalue
    rw [authorization, value?_of_isValue hvalue]
    rfl
  · intro hvalue
    rw [authorization, value?_of_not_isValue hvalue]
    rfl

/-- Colons in the value, blanks that take several bytes, and a token with a line break. -/
theorem fields_read_back_from_their_texts_sample :
    parse "X-kEY:\u2003a:é\u00a0\u3000" = .ok ⟨"x-key", Utf8.encode "a:é", true⟩ ∧
      authorization "a\nb" = parse ("Authorization: " ++ "a\nb") ∧
      authorization "a\nb" = .error .invalidValue := by
  have hparse : parse " x-Key :a:é" = .ok ⟨"x-key", Utf8.encode "a:é", true⟩ := by decide +kernel
  obtain ⟨value, hvalue, hback⟩ := fields_read_back_from_their_texts.1 _ _ hparse
  obtain rfl : value = "a:é" := Utf8.encode_inj.1 hvalue
  have htoken : Text.IsTrimmed "a\nb" := by decide
  obtain ⟨hsame, -, hrefused⟩ := fields_read_back_from_their_texts.2 "a\nb" htoken
  refine ⟨hback "X-kEY" "\u2003" "\u00a0\u3000" (by decide +kernel) ?_ ?_, hsame, hrefused ?_⟩
  · decide +kernel
  · decide +kernel
  · exact fun hall => absurd (hall 0x0A (by decide +kernel)) (by decide)

end Prelaunch.Header
