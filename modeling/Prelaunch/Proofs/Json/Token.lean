import Prelaunch.Json.Token

/-!
Which bytes write which tokens. Blanks may stand before, between and after the tokens, and a bare
word goes as far as its bytes do; whatever is written that way is taken apart into its tokens, and
nothing else is.
-/

namespace Prelaunch.Json

open Lexing

/-- What may stand before the closing quote of a text: no control characters, and no quote that is
not escaped. The first byte may itself be escaped. -/
inductive IsRaw : Bool → Bytes → Prop where
  | nil : IsRaw false []
  | escaped {b : UInt8} {raw : Bytes} (h : IsRaw false raw) : IsRaw true (b :: raw)
  | plain {b : UInt8} {raw : Bytes} (hquote : b ≠ quote) (hlow : 0x20 ≤ b)
      (h : IsRaw (b == escape) raw) : IsRaw false (b :: raw)

inductive Token.Written : List Token → Bytes → Prop where
  | nil : Token.Written [] []
  | blank {ts : List Token} {b : UInt8} {bs : Bytes} (hb : isBlank b = true)
      (h : Token.Written ts bs) : Token.Written ts (b :: bs)
  | punctuation {t : Token} {ts : List Token} {b : UInt8} {bs : Bytes}
      (ht : punctuation? b = some t) (h : Token.Written ts bs) : Token.Written (t :: ts) (b :: bs)
  | text {raw : Bytes} {ts : List Token} {bs : Bytes} (hraw : IsRaw false raw)
      (h : Token.Written ts bs) : Token.Written (.text raw :: ts) (quote :: (raw ++ quote :: bs))
  | bare {b : UInt8} {word : Bytes} {ts : List Token} {bs : Bytes}
      (hb : endsBare b = false) (hword : ∀ c ∈ word, endsBare c = false)
      (hends : ∀ c ∈ bs.head?, endsBare c = true) (h : Token.Written ts bs) :
      Token.Written (.bare (b :: word) :: ts) (b :: (word ++ bs))

namespace Lexing

/-- What is still to come: the tokens that are not yet complete, and the bytes that are left of
them. -/
def Leaves : Lexing → List Token → Bytes → Prop
  | .between, ts, bs => Token.Written ts bs
  | .inText raw escaped, ts, bs => ∃ more ts' bs', IsRaw escaped more ∧ Token.Written ts' bs' ∧
      ts = .text (raw.reverse ++ more) :: ts' ∧ bs = more ++ quote :: bs'
  | .inBare word, ts, bs => ∃ more ts' bs', (∀ b ∈ more, endsBare b = false) ∧
      (∀ b ∈ bs'.head?, endsBare b = true) ∧ Token.Written ts' bs' ∧
      ts = .bare (word.reverse ++ more) :: ts' ∧ bs = more ++ bs'

variable {s : Lexing} {ts : List Token} {b : UInt8} {bs raw word : Bytes}

/-! One byte. -/

theorem fresh_of_isBlank (h : isBlank b = true) : fresh b = ([], .between) := by
  simp [fresh, h]

theorem fresh_quote : fresh quote = ([], .inText [] false) :=
  rfl

theorem fresh_of_punctuation {t : Token} (h : punctuation? b = some t) :
    fresh b = ([t], .between) := by
  have hblank : isBlank b = false := by
    unfold punctuation? at h
    unfold isBlank
    grind
  have hquote : (b == quote) = false := by
    unfold punctuation? at h
    unfold quote
    grind
  simp [fresh, hblank, hquote, h]

theorem fresh_of_not_endsBare (h : endsBare b = false) : fresh b = ([], .inBare [b]) := by
  simp only [endsBare, Bool.or_eq_false_iff, Option.isSome_eq_false_iff,
    Option.isNone_iff_eq_none] at h
  simp [fresh, h.1.1, h.1.2, h.2]

/-- Each byte between tokens is of one of four kinds. -/
theorem kinds (b : UInt8) : isBlank b = true ∨ b = quote ∨ (∃ t, punctuation? b = some t) ∨
    endsBare b = false := by
  cases hends : endsBare b with
  | false => exact .inr (.inr (.inr rfl))
  | true =>
      simp only [endsBare, Bool.or_eq_true, beq_iff_eq, Option.isSome_iff_exists] at hends
      obtain (hblank | hquote) | ht := hends
      · exact .inl hblank
      · exact .inr (.inl hquote)
      · exact .inr (.inr (.inl ht))

theorem written_cons : Token.Written ts (b :: bs) ↔
    ∃ ts', ts = (fresh b).1 ++ ts' ∧ (fresh b).2.Leaves ts' bs := by
  constructor
  · intro h
    cases h with
    | blank hb h =>
        rw [fresh_of_isBlank hb]
        exact ⟨ts, rfl, h⟩
    | punctuation ht h =>
        rw [fresh_of_punctuation ht]
        exact ⟨_, rfl, h⟩
    | text hraw h =>
        rw [fresh_quote]
        exact ⟨_, rfl, _, _, _, hraw, h, rfl, rfl⟩
    | bare hb hword hends h =>
        rw [fresh_of_not_endsBare hb]
        exact ⟨_, rfl, _, _, _, hword, hends, h, rfl, rfl⟩
  · rintro ⟨ts', rfl, h⟩
    rcases kinds b with hb | rfl | ⟨t, ht⟩ | hb
    · rw [fresh_of_isBlank hb] at h ⊢
      exact .blank hb h
    · rw [fresh_quote] at h ⊢
      obtain ⟨raw, ts', bs', hraw, h, rfl, rfl⟩ := h
      exact .text hraw h
    · rw [fresh_of_punctuation ht] at h ⊢
      exact .punctuation ht h
    · rw [fresh_of_not_endsBare hb] at h ⊢
      obtain ⟨word, ts', bs', hword, hends, h, rfl, rfl⟩ := h
      exact .bare hb hword hends h

theorem leaves_inText_cons : (Lexing.inText raw false).Leaves ts (b :: bs) ↔
    (b = quote ∧ ∃ ts', ts = .text raw.reverse :: ts' ∧ Token.Written ts' bs) ∨
      (b ≠ quote ∧ 0x20 ≤ b ∧ (Lexing.inText (b :: raw) (b == escape)).Leaves ts bs) := by
  constructor
  · rintro ⟨more, ts', bs', hmore, h, rfl, hbs⟩
    cases hmore with
    | nil =>
        obtain ⟨rfl, rfl⟩ := List.cons.inj hbs
        exact .inl ⟨rfl, ts', by simp, h⟩
    | plain hquote hlow hmore =>
        obtain ⟨rfl, rfl⟩ := List.cons.inj hbs
        exact .inr ⟨hquote, hlow, _, ts', bs', hmore, h, by simp, rfl⟩
  · rintro (⟨rfl, ts', rfl, h⟩ | ⟨hquote, hlow, more, ts', bs', hmore, h, rfl, rfl⟩)
    · exact ⟨[], ts', bs, .nil, h, by simp, rfl⟩
    · exact ⟨b :: more, ts', bs', .plain hquote hlow hmore, h, by simp, rfl⟩

theorem leaves_inText_escaped_cons : (Lexing.inText raw true).Leaves ts (b :: bs) ↔
    (Lexing.inText (b :: raw) false).Leaves ts bs := by
  constructor
  · rintro ⟨more, ts', bs', hmore, h, rfl, hbs⟩
    cases hmore with
    | escaped hmore =>
        obtain ⟨rfl, rfl⟩ := List.cons.inj hbs
        exact ⟨_, ts', bs', hmore, h, by simp, rfl⟩
  · rintro ⟨more, ts', bs', hmore, h, rfl, rfl⟩
    exact ⟨b :: more, ts', bs', .escaped hmore, h, by simp, rfl⟩

theorem leaves_inBare_cons : (Lexing.inBare word).Leaves ts (b :: bs) ↔
    (endsBare b = true ∧ ∃ ts', ts = .bare word.reverse :: ts' ∧ Token.Written ts' (b :: bs)) ∨
      (endsBare b = false ∧ (Lexing.inBare (b :: word)).Leaves ts bs) := by
  constructor
  · rintro ⟨more, ts', bs', hmore, hends, h, rfl, hbs⟩
    cases more with
    | nil =>
        obtain rfl : b :: bs = bs' := hbs
        exact .inl ⟨hends b rfl, ts', by simp, h⟩
    | cons c more =>
        obtain ⟨rfl, rfl⟩ := List.cons.inj hbs
        obtain ⟨hb, hmore⟩ := List.forall_mem_cons.1 hmore
        exact .inr ⟨hb, more, ts', bs', hmore, hends, h, by simp, rfl⟩
  · rintro (⟨hb, ts', rfl, h⟩ | ⟨hb, more, ts', bs', hmore, hends, h, rfl, rfl⟩)
    · exact ⟨[], ts', b :: bs, by simp, by simpa using hb, h, by simp, rfl⟩
    · exact ⟨b :: more, ts', bs', List.forall_mem_cons.2 ⟨hb, hmore⟩, hends, h, by simp, rfl⟩

theorem leaves_cons : s.Leaves ts (b :: bs) ↔ ∃ step, s.next b = some step ∧
    ∃ ts', ts = step.1 ++ ts' ∧ step.2.Leaves ts' bs := by
  cases s with
  | between =>
      change Token.Written ts (b :: bs) ↔ _
      simp [next, written_cons]
  | inText raw escaped =>
      cases escaped with
      | true => simp [next, leaves_inText_escaped_cons]
      | false =>
          rw [leaves_inText_cons]
          by_cases hquote : b = quote
          · simp [next, hquote, Leaves]
          · by_cases hlow : b < 0x20
            · simp [next, hquote, hlow, UInt8.not_le.2 hlow]
            · simp [next, hquote, hlow, UInt8.not_lt.1 hlow]
  | inBare word =>
      rw [leaves_inBare_cons]
      cases hb : endsBare b with
      | true =>
          simp only [next, hb, written_cons, if_true, Option.some.injEq, exists_eq_left',
            List.cons_append, true_and, Bool.true_eq_false, false_and, or_false]
          constructor
          · rintro ⟨_, rfl, ts', rfl, h⟩
            exact ⟨ts', rfl, h⟩
          · rintro ⟨ts', rfl, h⟩
            exact ⟨_, rfl, ts', rfl, h⟩
      | false => simp [next, hb]

theorem leaves_nil : s.Leaves ts [] ↔ s.finish = some ts := by
  cases s with
  | between =>
      constructor
      · rintro ⟨⟩
        rfl
      · rintro ⟨⟩
        exact .nil
  | inText raw escaped => simp [Leaves, finish]
  | inBare word =>
      constructor
      · rintro ⟨more, ts', bs', -, -, h, rfl, hbs⟩
        obtain ⟨rfl, rfl⟩ := List.append_eq_nil_iff.1 hbs.symm
        obtain ⟨⟩ := h
        simp [finish]
      · rintro ⟨⟩
        exact ⟨[], [], [], by simp, by simp, .nil, by simp, rfl⟩

/-! A run. -/

theorem run_eq_some : s.run bs = some ts ↔ s.Leaves ts bs := by
  induction bs generalizing s ts with
  | nil => exact leaves_nil.symm
  | cons b bs ih =>
      rw [leaves_cons]
      constructor
      · intro h
        obtain ⟨step, hnext, h⟩ := Option.bind_eq_some_iff.1 h
        obtain ⟨ts', hrun, h⟩ := Option.bind_eq_some_iff.1 h
        exact ⟨step, hnext, ts', (Option.some.inj h).symm, ih.1 hrun⟩
      · rintro ⟨step, hnext, ts', rfl, h⟩
        simp [run, hnext, ih.2 h]

end Lexing

theorem Token.ofBytes?_eq_some {ts : List Token} {bs : Bytes} :
    Token.ofBytes? bs = some ts ↔ Token.Written ts bs :=
  Lexing.run_eq_some

end Prelaunch.Json
