import Prelaunch.Json.Number
import Mathlib.Data.Option.Basic

/-!
How the numbers of a document are written: a minus if they are negative, digits with no idle zero
before them, and perhaps a point with more digits, and a power of ten. All that is written so is a
number, and nothing else is.
-/

namespace Prelaunch

structure IsDigits (cs : List Char) : Prop where
  ne_nil : cs ≠ []
  isDigit : ∀ c ∈ cs, c.isDigit = true

/-- Digits end where something else begins. -/
theorem span_isDigit {cs digits rest : List Char} :
    cs.takeWhile Char.isDigit = digits ∧ cs.dropWhile Char.isDigit = rest ↔
      cs = digits ++ rest ∧ (∀ c ∈ digits, c.isDigit = true) ∧
        ∀ c ∈ rest.head?, c.isDigit = false := by
  constructor
  · rintro ⟨rfl, rfl⟩
    refine ⟨List.takeWhile_append_dropWhile.symm, List.all_eq_true.1 List.all_takeWhile,
      fun c hc => ?_⟩
    have hhead := List.head?_dropWhile_not Char.isDigit cs
    rwa [Option.mem_def.1 hc] at hhead
  · rintro ⟨rfl, hdigits, hrest⟩
    rw [List.takeWhile_append_of_pos hdigits, List.dropWhile_append_of_pos hdigits]
    cases rest with
    | nil => simp
    | cons c rest => simp [hrest c rfl]

namespace Numeral

inductive SignWritten : Bool → List Char → Prop where
  | none : SignWritten false []
  | plus : SignWritten false ['+']
  | minus : SignWritten true ['-']

inductive PowerWritten : Int → List Char → Prop where
  | intro {e : Char} {negative : Bool} {sign digits : List Char} (he : e = 'e' ∨ e = 'E')
      (hsign : SignWritten negative sign) (hdigits : IsDigits digits) :
      PowerWritten (if negative then -(digitsValue digits : Int) else digitsValue digits)
        (e :: (sign ++ digits))

theorem splitSign_append {negative : Bool} {sign digits : List Char}
    (hsign : SignWritten negative sign) (hdigits : IsDigits digits) :
    splitSign (sign ++ digits) = (negative, digits) := by
  cases hsign with
  | plus => rfl
  | minus => rfl
  | none =>
      rw [List.nil_append]
      fun_cases splitSign digits with
      | case1 rest => exact absurd (hdigits.isDigit '-' List.mem_cons_self) (by decide)
      | case2 rest => exact absurd (hdigits.isDigit '+' List.mem_cons_self) (by decide)
      | case3 => rfl

theorem exists_signWritten (cs : List Char) :
    ∃ sign, SignWritten (splitSign cs).1 sign ∧ cs = sign ++ (splitSign cs).2 := by
  fun_cases splitSign cs with
  | case1 rest => exact ⟨_, .minus, rfl⟩
  | case2 rest => exact ⟨_, .plus, rfl⟩
  | case3 => exact ⟨_, .none, rfl⟩

theorem power?_cons_eq_some {e : Char} {rest : List Char} {k : Int} :
    power? (e :: rest) = some k ↔ PowerWritten k (e :: rest) := by
  constructor
  · intro h
    rw [power?, Option.ite_none_right_eq_some] at h
    obtain ⟨hguard, hk⟩ := h
    obtain rfl := Option.some.inj hk
    simp only [Bool.and_eq_true, Bool.or_eq_true, beq_iff_eq, Bool.not_eq_true',
      List.isEmpty_eq_false_iff, List.all_eq_true] at hguard
    obtain ⟨⟨he, hne⟩, hall⟩ := hguard
    obtain ⟨sign, hsign, hrest⟩ := exists_signWritten rest
    have hwritten := PowerWritten.intro he hsign ⟨hne, hall⟩
    rwa [← hrest] at hwritten
  · rintro ⟨he, hsign, hdigits⟩
    have hall := List.all_eq_true.2 hdigits.isDigit
    simp [power?, splitSign_append hsign hdigits, he, hdigits.ne_nil, hall]

end Numeral

namespace Json.Number

inductive PowerWritten : Option Int → List Char → Prop where
  | none : PowerWritten none []
  | some {k : Int} {cs : List Char} (h : Numeral.PowerWritten k cs) : PowerWritten (some k) cs

inductive FractionWritten : Option (List Char) → List Char → Prop where
  | none : FractionWritten none []
  | some {digits : List Char} (h : IsDigits digits) : FractionWritten (some digits) ('.' :: digits)

/-- A zero is the first digit only if it is the last one as well. -/
structure IsWhole (cs : List Char) : Prop extends IsDigits cs where
  eq_zero : cs.head? = some '0' → cs.length = 1

inductive Written : Number → List Char → Prop where
  | intro {negative : Bool} {whole : List Char} {fraction : Option (List Char)}
      {power : Option Int} {fractionChars powerChars : List Char} (hwhole : IsWhole whole)
      (hfraction : FractionWritten fraction fractionChars)
      (hpower : PowerWritten power powerChars) :
      Written ⟨negative, whole, fraction, power⟩
        ((if negative then ['-'] else []) ++ (whole ++ (fractionChars ++ powerChars)))

variable {cs : List Char} {n : Number}

theorem power?_eq_some {k : Option Int} : power? cs = some k ↔ PowerWritten k cs := by
  cases cs with
  | nil =>
      constructor
      · rintro ⟨⟩
        exact .none
      · rintro (_ | ⟨⟨⟩⟩)
        rfl
  | cons e rest =>
      constructor
      · intro h
        obtain ⟨k, hk, rfl⟩ := Option.map_eq_some_iff.1 h
        exact .some (Numeral.power?_cons_eq_some.1 hk)
      · rintro (_ | hk)
        simp [power?, Numeral.power?_cons_eq_some.2 hk]

theorem PowerWritten.head?_not_isDigit {k : Option Int} (h : PowerWritten k cs) :
    ∀ c ∈ cs.head?, c.isDigit = false := by
  cases h with
  | none => simp
  | some h =>
      obtain ⟨rfl | rfl, -, -⟩ := h <;>
      · rintro c ⟨⟩
        rfl

theorem isWhole_iff : IsWhole cs ↔ (∀ c ∈ cs, c.isDigit = true) ∧
    (!cs.isEmpty && (cs.head? != some '0' || cs.length == 1)) = true := by
  simp only [Bool.and_eq_true, Bool.or_eq_true, bne_iff_ne, beq_iff_eq, Bool.not_eq_true',
    List.isEmpty_eq_false_iff]
  constructor
  · rintro ⟨⟨hne, hall⟩, hzero⟩
    exact ⟨hall, hne, Decidable.not_or_of_imp hzero⟩
  · rintro ⟨hall, hne, hzero⟩
    exact ⟨⟨hne, hall⟩, Decidable.imp_iff_not_or.2 hzero⟩

theorem fraction?_append {fraction : Option (List Char)} {fractionChars powerChars : List Char}
    {power : Option Int} (hfraction : FractionWritten fraction fractionChars)
    (hpower : PowerWritten power powerChars) :
    fraction? (fractionChars ++ powerChars) = some (fraction, powerChars) := by
  cases hfraction with
  | none =>
      rw [List.nil_append]
      fun_cases fraction? powerChars with
      | case3 => rfl
      | _ => rcases hpower with _ | ⟨h | h, -, -⟩ <;> cases h
  | some hdigits =>
      obtain ⟨htake, hdrop⟩ := span_isDigit.2 ⟨rfl, hdigits.isDigit, hpower.head?_not_isDigit⟩
      simp [fraction?, htake, hdrop, hdigits.ne_nil]

theorem exists_fractionWritten {fraction : Option (List Char)} {rest : List Char}
    (h : fraction? cs = some (fraction, rest)) :
    ∃ fractionChars, FractionWritten fraction fractionChars ∧ cs = fractionChars ++ rest := by
  fun_cases fraction? cs with
  | case1 more digits hempty => simp [fraction?, digits, hempty] at h
  | case2 more digits hempty =>
      obtain ⟨rfl, rfl⟩ : some digits = fraction ∧ more.dropWhile Char.isDigit = rest := by
        simpa [fraction?, digits, hempty] using h
      refine ⟨_, .some ⟨by simpa using hempty, List.all_eq_true.1 List.all_takeWhile⟩, ?_⟩
      rw [List.cons_append, List.takeWhile_append_dropWhile]
  | case3 hpoint =>
      obtain ⟨rfl, rfl⟩ : none = fraction ∧ cs = rest := by simpa [fraction?] using h
      exact ⟨[], .none, rfl⟩

theorem magnitude?_eq_some {negative : Bool} : magnitude? negative cs = some n ↔
    ∃ whole fraction power fractionChars powerChars, IsWhole whole ∧
      FractionWritten fraction fractionChars ∧ PowerWritten power powerChars ∧
      n = ⟨negative, whole, fraction, power⟩ ∧ cs = whole ++ (fractionChars ++ powerChars) := by
  constructor
  · intro h
    obtain ⟨_, hguard, h⟩ := Option.bind_eq_some_iff.1 h
    obtain ⟨⟨fraction, rest⟩, hfraction, h⟩ := Option.bind_eq_some_iff.1 h
    obtain ⟨power, hpower, h⟩ := Option.bind_eq_some_iff.1 h
    obtain ⟨fractionChars, hwritten, hcs⟩ := exists_fractionWritten hfraction
    have hwhole : IsWhole (cs.takeWhile Char.isDigit) :=
      isWhole_iff.2 ⟨List.all_eq_true.1 List.all_takeWhile, (Option.guard_eq_some' _).1 hguard⟩
    refine ⟨_, fraction, power, fractionChars, rest, hwhole, hwritten, power?_eq_some.1 hpower,
      (Option.some.inj h).symm, ?_⟩
    rw [← hcs, List.takeWhile_append_dropWhile]
  · rintro ⟨whole, fraction, power, fractionChars, powerChars, hwhole, hfraction, hpower, rfl, rfl⟩
    have hhead : ∀ c ∈ (fractionChars ++ powerChars).head?, c.isDigit = false := by
      cases hfraction with
      | none => exact hpower.head?_not_isDigit
      | some => rintro c ⟨⟩; rfl
    obtain ⟨hall, hguard⟩ := isWhole_iff.1 hwhole
    obtain ⟨htake, hdrop⟩ := span_isDigit.2 ⟨rfl, hall, hhead⟩
    simp [magnitude?, htake, hdrop, guard, hguard, fraction?_append hfraction hpower,
      power?_eq_some.2 hpower]

theorem ofChars?_eq_some : ofChars? cs = some n ↔ Written n cs := by
  constructor
  · intro h
    unfold ofChars? at h
    split at h <;>
    · obtain ⟨_, _, _, _, _, hwhole, hfraction, hpower, rfl, rfl⟩ := magnitude?_eq_some.1 h
      exact .intro hwhole hfraction hpower
  · intro h
    cases h with
    | @intro negative whole _ _ fractionChars powerChars hwhole hfraction hpower =>
    have hmagnitude : magnitude? negative (whole ++ (fractionChars ++ powerChars)) =
        some ⟨negative, whole, _, _⟩ :=
      magnitude?_eq_some.2 ⟨_, _, _, _, _, hwhole, hfraction, hpower, rfl, rfl⟩
    cases negative with
    | true => exact hmagnitude
    | false =>
        change ofChars? (whole ++ (fractionChars ++ powerChars)) = _
        rw [ofChars?, hmagnitude]
        obtain ⟨d, others, rfl⟩ := List.exists_cons_of_ne_nil hwhole.ne_nil
        rintro rest ⟨⟩
        exact absurd (hwhole.isDigit '-' List.mem_cons_self) (by decide)

end Json.Number

end Prelaunch
