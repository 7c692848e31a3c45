import Prelaunch.Header
import Prelaunch.Proofs.Text
import Prelaunch.Proofs.Utf8

/-!
Which texts are read as header fields. A field is a name and a value with a colon between them and
blanks around each; it is taken if the name is a token and the value has no control characters, and
of any other text the first thing that is wrong with it is reported.
-/

namespace Prelaunch.Header

variable {raw name value : String} {c : Char}

/-! Names. -/

/-- Visible characters that are kept for other purposes than to spell a name. -/
def delimiters : List Char := "\"(),/:;<=>?@[\\]\x7b\x7d".toList

/-- A token consists of visible basic characters that are no delimiters. -/
structure IsToken (name : String) : Prop where
  ne_empty : name ≠ ""
  visible : ∀ c ∈ name.toList, 0x21 ≤ c.toNat ∧ c.toNat ≤ 0x7E
  notMem_delimiters : ∀ c ∈ name.toList, c ∉ delimiters

theorem lt_of_isTokenChar (h : isTokenChar c = true) : c.toNat < 0x80 := by
  unfold isTokenChar at h
  rcases Bool.or_eq_true_iff.1 h with halphanum | hlisted
  · have hcases : (c.isUpper || c.isLower || c.isDigit) = true := halphanum
    rw [Bool.or_eq_true, Bool.or_eq_true] at hcases
    -- what is lower than the last letter or digit of its kind is lower than 0x80
    have hlt {last : UInt32} (hlast : last.toNat < 0x80) (hc : c.val ≤ last) : c.toNat < 0x80 :=
      Nat.lt_of_le_of_lt (UInt32.le_iff_toNat_le.1 hc) hlast
    obtain (hupper | hlower) | hdigit := hcases
    · exact hlt (by decide) (of_decide_eq_true hupper).2
    · exact hlt (by decide) (of_decide_eq_true (Bool.and_eq_true_iff.1 hlower).2)
    · exact hlt (by decide) (of_decide_eq_true (Bool.and_eq_true_iff.1 hdigit).2)
  · have hlow : ("!#$%&'*+-.^_\x60|~".toList.all fun d => d.toNat < 0x80) = true := by decide
    exact of_decide_eq_true (List.all_eq_true.1 hlow c (List.contains_iff_mem.1 hlisted))

/-- What holds of all basic characters one by one. -/
theorem forall_ascii {p : Char → Prop} (hall : ∀ n < 0x80, p (Char.ofNat n))
    (hc : c.toNat < 0x80) : p c := by
  rw [← Char.ofNat_toNat c]
  exact hall c.toNat hc

theorem isTokenChar_iff :
    isTokenChar c = true ↔ (0x21 ≤ c.toNat ∧ c.toNat ≤ 0x7E) ∧ c ∉ delimiters := by
  by_cases hc : c.toNat < 0x80
  · exact forall_ascii (p := fun c => isTokenChar c = true ↔
      (0x21 ≤ c.toNat ∧ c.toNat ≤ 0x7E) ∧ c ∉ delimiters) (by decide +kernel) hc
  · exact ⟨fun h => absurd (lt_of_isTokenChar h) hc, fun h => by omega⟩

theorem toLower_of_not_lt (hc : ¬ c.toNat < 0x80) : c.toLower = c := by
  refine dif_neg fun hupper => hc ?_
  exact Nat.lt_of_le_of_lt (UInt32.le_iff_toNat_le.1 hupper.2) (by decide)

theorem isTokenChar_toLower (c : Char) : isTokenChar c.toLower = isTokenChar c := by
  by_cases hc : c.toNat < 0x80
  · exact forall_ascii (p := fun c => isTokenChar c.toLower = isTokenChar c)
      (by decide +kernel) hc
  · rw [toLower_of_not_lt hc]

theorem isToken_iff : IsToken name ↔
    name ≠ "" ∧ ∀ c ∈ name.toList, isTokenChar c = true := by
  constructor
  · intro h
    exact ⟨h.ne_empty, fun c hc => isTokenChar_iff.2 ⟨h.visible c hc, h.notMem_delimiters c hc⟩⟩
  · rintro ⟨hne, hall⟩
    exact ⟨hne, fun c hc => (isTokenChar_iff.1 (hall c hc)).1,
      fun c hc => (isTokenChar_iff.1 (hall c hc)).2⟩

/-- A token has as many bytes as characters. -/
theorem IsToken.length_encode (h : IsToken name) :
    (Utf8.encode name).length = name.toList.length :=
  Utf8.length_encode_of_ascii fun c hc => lt_of_isTokenChar ((isToken_iff.1 h).2 c hc)

/-- Whether a name is a token does not depend on the case of its letters. -/
theorem isToken_asciiLower_iff : IsToken (Text.asciiLower name) ↔ IsToken name := by
  simp [isToken_iff, Text.asciiLower, isTokenChar_toLower, String.ofList_eq_empty_iff]

theorem IsToken.asciiLower (h : IsToken name) : IsToken (Text.asciiLower name) :=
  isToken_asciiLower_iff.2 h

/-- Names are tokens that are not too long. -/
structure IsName (name : String) : Prop extends IsToken name where
  length_le : (Utf8.encode name).length ≤ maxNameLength

theorem isName_iff : isName name = true ↔ IsName name := by
  have hsplit : isName name = true ↔
      IsToken name ∧ name.toList.length ≤ maxNameLength := by
    simp [isName, isToken_iff, and_assoc]
  rw [hsplit]
  constructor
  · rintro ⟨htoken, hlength⟩
    exact ⟨htoken, htoken.length_encode ▸ hlength⟩
  · rintro ⟨htoken, hlength⟩
    exact ⟨htoken, htoken.length_encode ▸ hlength⟩

/-! Values. -/

/-- Bytes without control characters, a tab apart. -/
def IsValue (bytes : Bytes) : Prop := ∀ b ∈ bytes, b = 0x09 ∨ (0x20 ≤ b ∧ b ≠ 0x7F)

theorem all_isValueByte_iff {bytes : Bytes} : bytes.all isValueByte = true ↔ IsValue bytes := by
  simp [isValueByte, IsValue]

theorem value?_of_isValue (h : IsValue (Utf8.encode value)) :
    value? value = .ok (Utf8.encode value) := by
  simp [value?, all_isValueByte_iff.2 h]

theorem value?_of_not_isValue (h : ¬ IsValue (Utf8.encode value)) :
    value? value = .error .invalidValue := by
  have hnone : (Utf8.encode value).all isValueByte = false :=
    Bool.eq_false_iff.2 (mt all_isValueByte_iff.1 h)
  simp [value?, hnone]

/-! Fields. -/

/-- The text is the name, the first colon and the value, with blanks around both. -/
def Spells (raw name value : String) : Prop :=
  ∃ before after, raw = before ++ ":" ++ after ∧ ':' ∉ before.toList ∧
    Text.IsPadded name before ∧ Text.IsPadded value after

theorem spells_iff : Spells raw name value ↔ ∃ before after,
    Text.splitFirst? ':' raw = some (before, after) ∧ Text.trim before = name ∧
      Text.trim after = value := by
  constructor
  · rintro ⟨before, after, hraw, hbefore, hname, hvalue⟩
    exact ⟨before, after, Text.splitFirst?_eq_some.2 ⟨hraw, hbefore⟩, Text.isPadded_iff.1 hname,
      Text.isPadded_iff.1 hvalue⟩
  · rintro ⟨before, after, hsplit, hname, hvalue⟩
    obtain ⟨hraw, hbefore⟩ := Text.splitFirst?_eq_some.1 hsplit
    exact ⟨before, after, hraw, hbefore, Text.isPadded_iff.2 hname, Text.isPadded_iff.2 hvalue⟩

/-- A text with a colon spells one name and one value. -/
theorem Spells.unique {name' value' : String} (h : Spells raw name value)
    (h' : Spells raw name' value') : name = name' ∧ value = value' := by
  obtain ⟨before, after, hsplit, rfl, rfl⟩ := spells_iff.1 h
  obtain ⟨before', after', hsplit', rfl, rfl⟩ := spells_iff.1 h'
  obtain ⟨rfl, rfl⟩ := Prod.mk.inj (Option.some.inj (hsplit.symm.trans hsplit'))
  exact ⟨rfl, rfl⟩

theorem exists_spells (h : ':' ∈ raw.toList) : ∃ name value, Spells raw name value := by
  cases hsplit : Text.splitFirst? ':' raw with
  | none => exact absurd h (Text.splitFirst?_eq_none.1 hsplit)
  | some parts => exact ⟨_, _, spells_iff.2 ⟨parts.1, parts.2, hsplit, rfl, rfl⟩⟩

/-- Why a text is no field: it has no colon, no name, a name that is no token or too long, or a
value with control characters. Each applies where those before it do not. -/
inductive Refuses (raw : String) : HeaderError → Prop where
  | missingSeparator (h : ':' ∉ raw.toList) : Refuses raw .missingSeparator
  | emptyName {value : String} (h : Spells raw "" value) : Refuses raw .emptyName
  | invalidName {name value : String} (h : Spells raw name value) (hne : name ≠ "")
      (hname : ¬ IsName name) : Refuses raw (.invalidName name)
  | invalidValue {name value : String} (h : Spells raw name value) (hname : IsName name)
      (hvalue : ¬ IsValue (Utf8.encode value)) : Refuses raw .invalidValue

theorem parse_of_notMem (h : ':' ∉ raw.toList) : parse raw = .error .missingSeparator := by
  unfold parse
  rw [Text.splitFirst?_eq_none.2 h]
  rfl

theorem parse_of_spells (h : Spells raw name value) :
    parse raw = if name = "" then .error .emptyName
      else if isName name = true then
        (value? value).map (⟨Text.asciiLower name, ·, true⟩)
      else .error (.invalidName name) := by
  obtain ⟨before, after, hsplit, rfl, rfl⟩ := spells_iff.1 h
  unfold parse
  rw [hsplit]
  simp only [String.isEmpty_iff]
  split
  · rfl
  · cases isName (Text.trim before) with
    | false => rfl
    | true => cases value? (Text.trim after) <;> rfl

theorem parse_of_isName (h : Spells raw name value) (hname : IsName name)
    (hvalue : IsValue (Utf8.encode value)) :
    parse raw = .ok ⟨Text.asciiLower name, Utf8.encode value, true⟩ := by
  rw [parse_of_spells h, if_neg hname.ne_empty, if_pos (isName_iff.2 hname),
    value?_of_isValue hvalue]
  rfl

theorem parse_of_refuses {e : HeaderError} (h : Refuses raw e) : parse raw = .error e := by
  cases h with
  | missingSeparator hnone => exact parse_of_notMem hnone
  | emptyName hspells => rw [parse_of_spells hspells, if_pos rfl]
  | invalidName hspells hne hname =>
      rw [parse_of_spells hspells, if_neg hne, if_neg (mt isName_iff.1 hname)]
  | invalidValue hspells hname hvalue =>
      rw [parse_of_spells hspells, if_neg hname.ne_empty, if_pos (isName_iff.2 hname),
        value?_of_not_isValue hvalue]
      rfl

/-- A text is a field, or something is wrong with it. -/
theorem isField_or_refuses (raw : String) :
    (∃ name value, Spells raw name value ∧ IsName name ∧ IsValue (Utf8.encode value)) ∨
      ∃ e, Refuses raw e := by
  by_cases hcolon : ':' ∈ raw.toList
  · obtain ⟨name, value, hspells⟩ := exists_spells hcolon
    by_cases hempty : name = ""
    · subst hempty
      exact .inr ⟨_, .emptyName hspells⟩
    by_cases hname : IsName name
    · by_cases hvalue : IsValue (Utf8.encode value)
      · exact .inl ⟨name, value, hspells, hname, hvalue⟩
      · exact .inr ⟨_, .invalidValue hspells hname hvalue⟩
    · exact .inr ⟨_, .invalidName hspells hempty hname⟩
  · exact .inr ⟨_, .missingSeparator hcolon⟩

theorem parse_eq_ok {h : Header} : parse raw = .ok h ↔ ∃ name value, Spells raw name value ∧
    IsName name ∧ IsValue (Utf8.encode value) ∧
      h = ⟨Text.asciiLower name, Utf8.encode value, true⟩ := by
  constructor
  · intro hparse
    obtain ⟨name, value, hspells, hname, hvalue⟩ | ⟨e, hrefuses⟩ := isField_or_refuses raw
    · rw [parse_of_isName hspells hname hvalue] at hparse
      exact ⟨name, value, hspells, hname, hvalue, (Except.ok.inj hparse).symm⟩
    · rw [parse_of_refuses hrefuses] at hparse
      cases hparse
  · rintro ⟨name, value, hspells, hname, hvalue, rfl⟩
    exact parse_of_isName hspells hname hvalue

theorem parse_eq_error {e : HeaderError} : parse raw = .error e ↔ Refuses raw e := by
  refine ⟨fun hparse => ?_, parse_of_refuses⟩
  obtain ⟨name, value, hspells, hname, hvalue⟩ | ⟨e', hrefuses⟩ := isField_or_refuses raw
  · rw [parse_of_isName hspells hname hvalue] at hparse
    cases hparse
  · rw [parse_of_refuses hrefuses] at hparse
    exact Except.error.inj hparse ▸ hrefuses

/-! What a field cannot hold. -/

theorem IsToken.notMem_colon (h : IsToken name) : ':' ∉ name.toList :=
  fun hmem => h.notMem_delimiters ':' hmem (by decide)

theorem IsToken.le_of_mem_encode (h : IsToken name) {b : UInt8} (hb : b ∈ Utf8.encode name) :
    0x21 ≤ b := by
  by_contra hlow
  have hlt : b.toNat < 0x21 := by simpa [UInt8.lt_iff_toNat_lt] using hlow
  obtain ⟨c, hc, hcb⟩ := (Utf8.mem_encode (by omega)).1 hb
  have hvisible := (h.visible c hc).1
  omega

/-- A text is read as a header field exactly if it is a name, a colon and a value with blanks around
them, the name being a token of at most 65535 bytes and the value free of control characters. Of
any other text the first thing that is wrong is reported. A field that is read cannot end its line
or begin another one. -/
theorem fields_are_read_exactly (raw : String) :
    (∀ h, parse raw = .ok h ↔ ∃ name value, Spells raw name value ∧ IsToken name ∧
      (Utf8.encode name).length ≤ 65535 ∧ IsValue (Utf8.encode value) ∧
      h = ⟨Text.asciiLower name, Utf8.encode value, true⟩) ∧
    (∀ e, parse raw = .error e ↔ Refuses raw e) ∧
    ∀ h, parse raw = .ok h → IsToken h.name ∧ ':' ∉ h.name.toList ∧
      ∀ b ∈ Utf8.encode h.name ++ h.value, b ≠ 0x0D ∧ b ≠ 0x0A ∧ b ≠ 0x00 := by
  refine ⟨fun h => ?_, fun e => parse_eq_error, fun h hparse => ?_⟩
  · rw [parse_eq_ok]
    constructor
    · rintro ⟨name, value, hspells, ⟨htoken, hlength⟩, hvalue, rfl⟩
      exact ⟨name, value, hspells, htoken, hlength, hvalue, rfl⟩
    · rintro ⟨name, value, hspells, htoken, hlength, hvalue, rfl⟩
      exact ⟨name, value, hspells, ⟨htoken, hlength⟩, hvalue, rfl⟩
  · obtain ⟨name, value, -, hname, hvalue, rfl⟩ := parse_eq_ok.1 hparse
    have hlower := hname.toIsToken.asciiLower
    refine ⟨hlower, hlower.notMem_colon, fun b hb => ?_⟩
    -- the bytes of the name are visible, and those of the value above the controls but for the tab
    have hrange : b = 0x09 ∨ 0x20 ≤ b := by
      rcases List.mem_append.1 hb with hb | hb
      · have hvisible := hlower.le_of_mem_encode hb
        grind
      · exact (hvalue b hb).imp_right And.left
    refine ⟨?_, ?_, ?_⟩ <;>
    · rintro rfl
      exact absurd hrange (by decide)

/-- Blanks are taken off whatever characters they are, and further colons belong to the value. -/
theorem fields_are_read_exactly_sample :
    parse "\u00a0X-Key\t:\u2003abc:é\u3000" = .ok ⟨"x-key", Utf8.encode "abc:é", true⟩ ∧
      IsToken "x-key" ∧ ':' ∉ "x-key".toList ∧
      ∀ b ∈ Utf8.encode "x-key" ++ Utf8.encode "abc:é", b ≠ 0x0D ∧ b ≠ 0x0A ∧ b ≠ 0x00 := by
  have hparse : parse "\u00a0X-Key\t:\u2003abc:é\u3000" =
      .ok ⟨"x-key", Utf8.encode "abc:é", true⟩ := by
    decide +kernel
  exact ⟨hparse, (fields_are_read_exactly _).2.2 _ hparse⟩

/-- The name is judged before the value. -/
example : parse "X Key: a\nb" = .error (.invalidName "X Key") := by
  decide +kernel

end Prelaunch.Header
