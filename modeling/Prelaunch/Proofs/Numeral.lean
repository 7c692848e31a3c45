import Mathlib.Data.List.TakeWhile
import Prelaunch.Number.Numeral

/-!
Numbers that are read from a text. An integer that is printed again comes back as the same text if
that has no plus and no zeros in front, and does not give zero a minus. A text with any other
characters than letters, digits, signs and points in it is no number at all.
-/

namespace Prelaunch

namespace Numeral

variable {cs : List Char}

theorem digitsValue_eq_ofDigitChars (cs : List Char) :
    digitsValue cs = Nat.ofDigitChars 10 cs 0 := by
  simp only [digitsValue, Nat.ofDigitChars, Nat.mul_comm]
  rfl

theorem digitsValue_toDigits (n : Nat) : digitsValue (Nat.toDigits 10 n) = n := by
  rw [digitsValue_eq_ofDigitChars, Nat.ofDigitChars_toDigits (by decide) (by decide)]

theorem digitChar_of_isDigit {c : Char} (h : c.isDigit = true) :
    c.toNat - 48 < 10 ∧ Nat.digitChar (c.toNat - 48) = c := by
  obtain ⟨hlow, hhigh⟩ : 48 ≤ c.toNat ∧ c.toNat ≤ 57 := Char.isDigit_iff_toNat.1 h
  have hlt : c.toNat - 48 < 10 := by omega
  refine ⟨hlt, Char.toNat_inj.1 ?_⟩
  rw [Nat.toNat_digitChar_of_lt_ten hlt]
  omega

/-- Digits behind those of a number that is not zero are its further digits. -/
theorem toDigits_append {n : Nat} (hn : 0 < n) (hall : ∀ c ∈ cs, c.isDigit = true) :
    Nat.toDigits 10 n ++ cs = Nat.toDigits 10 (Nat.ofDigitChars 10 cs n) := by
  induction cs generalizing n with
  | nil => rw [List.append_nil, Nat.ofDigitChars_nil]
  | cons c cs ih =>
      obtain ⟨hc, hcs⟩ := List.forall_mem_cons.1 hall
      obtain ⟨hlt, hchar⟩ := digitChar_of_isDigit hc
      have hstep := Nat.toDigits_append_toDigits (by decide) hn hlt
      rw [Nat.toDigits_of_lt_base hlt, hchar] at hstep
      calc Nat.toDigits 10 n ++ c :: cs
          = Nat.toDigits 10 n ++ [c] ++ cs := by rw [List.append_assoc, List.singleton_append]
        _ = Nat.toDigits 10 (10 * n + (c.toNat - 48)) ++ cs := by rw [hstep]
        _ = Nat.toDigits 10 (Nat.ofDigitChars 10 cs (10 * n + (c.toNat - 48))) := ih (by omega) hcs

/-- Digits without a zero in front, or one zero. -/
structure IsNatural (cs : List Char) : Prop where
  ne_nil : cs ≠ []
  isDigit : ∀ c ∈ cs, c.isDigit = true
  zero : cs.head? = some '0' → cs = ['0']

theorem IsNatural.toDigits_digitsValue (h : IsNatural cs) :
    Nat.toDigits 10 (digitsValue cs) = cs := by
  obtain ⟨hne, hall, hzero⟩ := h
  cases cs with
  | nil => exact absurd rfl hne
  | cons c cs =>
      obtain ⟨hc, hcs⟩ := List.forall_mem_cons.1 hall
      obtain ⟨hlt, hchar⟩ := digitChar_of_isDigit hc
      by_cases hpos : c.toNat - 48 = 0
      · obtain rfl : c = '0' := by rw [← hchar, hpos]; rfl
        rw [hzero rfl]
        rfl
      · have hrest := toDigits_append (Nat.pos_of_ne_zero hpos) hcs
        rw [Nat.toDigits_of_lt_base hlt, hchar, List.singleton_append] at hrest
        rw [digitsValue_eq_ofDigitChars, Nat.ofDigitChars_cons, Nat.mul_zero, Nat.zero_add]
        exact hrest.symm

theorem head?_toDigits {n : Nat} (hn : n ≠ 0) : (Nat.toDigits 10 n).head? ≠ some '0' := by
  induction n using Nat.strongRecOn with
  | _ n ih =>
      by_cases hlt : n < 10
      · rw [Nat.toDigits_of_lt_base hlt]
        intro h
        have hzero : n.digitChar.toNat = 48 := by rw [Option.some.inj h]; rfl
        rw [Nat.toNat_digitChar_of_lt_ten hlt] at hzero
        omega
      · have hrest := ih (n / 10) (by omega) (by omega)
        rw [Nat.toDigits_of_base_le (by decide) (by omega)]
        cases hdigits : Nat.toDigits 10 (n / 10) with
        | nil => exact absurd hdigits Nat.toDigits_ne_nil
        | cons c cs =>
            rw [hdigits] at hrest
            exact hrest

theorem isNatural_toDigits (n : Nat) : IsNatural (Nat.toDigits 10 n) where
  ne_nil := Nat.toDigits_ne_nil
  isDigit _ hc := Nat.isDigit_of_mem_toDigits (by decide) (by decide) hc
  zero h := by
    by_cases hn : n = 0
    · rw [hn]
      rfl
    · exact absurd h (head?_toDigits hn)

theorem splitSign_of_isDigit (hne : cs ≠ []) (hall : ∀ c ∈ cs, c.isDigit = true) :
    splitSign cs = (false, cs) := by
  cases cs with
  | nil => exact absurd rfl hne
  | cons c cs =>
      have hc := hall c List.mem_cons_self
      unfold splitSign
      split
      · rename_i heq
        obtain rfl := (List.cons.inj heq).1
        cases hc
      · rename_i heq
        obtain rfl := (List.cons.inj heq).1
        cases hc
      · rfl

/-! The characters of a number. -/

/-- The characters of which numbers and their words are made up, and all other letters. -/
def IsNumberChar (c : Char) : Prop := c.isAlphanum = true ∨ c ∈ ['+', '-', '.']

theorem isNumberChar_of_isDigit {c : Char} (h : c.isDigit = true) : IsNumberChar c := by
  left
  simp [Char.isAlphanum, h]

variable {c : Char}

theorem isNumberChar_of_splitSign (hc : c ∈ cs) (h : c ∈ (splitSign cs).2 → IsNumberChar c) :
    IsNumberChar c := by
  unfold splitSign at h
  split at h
  · rcases List.mem_cons.1 hc with rfl | hc
    · exact .inr (by simp)
    · exact h hc
  · rcases List.mem_cons.1 hc with rfl | hc
    · exact .inr (by simp)
    · exact h hc
  · exact h hc

theorem isNumberChar_of_power? (h : (power? cs).isSome = true) (hc : c ∈ cs) : IsNumberChar c := by
  unfold power? at h
  split at h
  · cases hc
  · rename_i e rest
    dsimp only at h
    split at h
    · rename_i hdigits
      simp only [Bool.and_eq_true, Bool.or_eq_true, beq_iff_eq, List.all_eq_true] at hdigits
      obtain ⟨⟨he, -⟩, hall⟩ := hdigits
      rcases List.mem_cons.1 hc with rfl | hc
      · rcases he with rfl | rfl <;> exact .inl (by decide)
      · exact isNumberChar_of_splitSign hc fun hc => isNumberChar_of_isDigit (hall c hc)
    · cases h

theorem isNumberChar_of_dropWhile (hc : c ∈ cs)
    (h : c ∈ cs.dropWhile Char.isDigit → IsNumberChar c) : IsNumberChar c := by
  rw [← List.takeWhile_append_dropWhile (p := Char.isDigit) (l := cs), List.mem_append] at hc
  exact hc.elim (fun hc => isNumberChar_of_isDigit (List.mem_takeWhile_imp hc)) h

theorem isNumberChar_of_ofChars? (h : (ofChars? cs).isSome = true) (hc : c ∈ cs) :
    IsNumberChar c := by
  refine isNumberChar_of_splitSign hc fun hc => isNumberChar_of_dropWhile hc fun hc => ?_
  unfold ofChars? at h
  dsimp only at h
  split at h
  · rename_i more hmore
    rw [hmore] at hc
    rcases List.mem_cons.1 hc with rfl | hc
    · exact .inr (by simp)
    · refine isNumberChar_of_dropWhile hc fun hc => isNumberChar_of_power? ?_ hc
      split at h
      · cases h
      · rwa [Option.isSome_map] at h
  · refine isNumberChar_of_power? ?_ hc
    split at h
    · cases h
    · rwa [Option.isSome_map] at h

theorem isNumberChar_of_word {word : String} {cs : List Char} {c : Char}
    (hword : String.ofList (cs.map Char.toLower) = word)
    (hall : word.toList.all Char.isAlphanum = true) (hc : c ∈ cs) : IsNumberChar c := by
  have hlower : c.toLower.isAlphanum = true := by
    apply List.all_eq_true.1 hall
    rw [← hword, String.toList_ofList]
    exact List.mem_map_of_mem hc
  have hletter : c.isAlphanum = (c.isUpper || c.isLower || c.isDigit) := rfl
  by_cases hupper : c.isUpper = true
  · exact .inl (by rw [hletter, hupper]; rfl)
  · have hkept : c.toLower = c := dif_neg fun h => hupper (decide_eq_true h)
    rw [hkept] at hlower
    exact .inl hlower

end Numeral

theorem Double.isNumberChar_of_ofText? {s : String} {c : Char} (h : (ofText? s).isSome = true)
    (hc : c ∈ s.toList) : Numeral.IsNumberChar c := by
  unfold ofText? at h
  dsimp only at h
  split at h
  · rename_i hword
    refine Numeral.isNumberChar_of_splitSign hc fun hc => ?_
    rcases Bool.or_eq_true_iff.1 hword with hword | hword
    · exact Numeral.isNumberChar_of_word (beq_iff_eq.1 hword) (by decide) hc
    · exact Numeral.isNumberChar_of_word (beq_iff_eq.1 hword) (by decide) hc
  · split at h
    · rename_i hword
      refine Numeral.isNumberChar_of_splitSign hc fun hc => ?_
      exact Numeral.isNumberChar_of_word (beq_iff_eq.1 hword) (by decide) hc
    · rw [Option.isSome_map] at h
      exact Numeral.isNumberChar_of_ofChars? h hc

namespace Integer

open Numeral

/-- An integer without a plus, without zeros in front, and without a minus before zero. -/
def IsPlain (s : String) : Prop :=
  ∃ digits, IsNatural digits ∧
    (s.toList = digits ∨ digits ≠ ['0'] ∧ s.toList = '-' :: digits)

variable {s : String} {n : Int}

theorem ofText?_of_digits {digits : List Char} (h : IsNatural digits) :
    (s.toList = digits → ofText? s = some (digitsValue digits : Int)) ∧
      (s.toList = '-' :: digits → ofText? s = some (-(digitsValue digits : Int))) := by
  have hall : digits.all Char.isDigit = true := List.all_eq_true.2 h.isDigit
  have hempty : digits.isEmpty = false := by simpa using h.ne_nil
  constructor
  · intro hs
    unfold ofText?
    rw [hs, splitSign_of_isDigit h.ne_nil h.isDigit]
    simp [hall, hempty]
  · intro hs
    unfold ofText?
    rw [hs]
    simp [splitSign, hall, hempty]

theorem isPlain_toString (n : Int) : IsPlain (toString n) := by
  cases n with
  | ofNat n => exact ⟨_, isNatural_toDigits n, .inl (String.toList_ofList)⟩
  | negSucc n =>
      refine ⟨_, isNatural_toDigits (n + 1), .inr ⟨?_, ?_⟩⟩
      · intro hzero
        have hvalue := digitsValue_toDigits (n + 1)
        rw [hzero] at hvalue
        cases hvalue
      · show ("-" ++ Nat.repr (n + 1)).toList = _
        simp [Nat.repr]

theorem isNumberChar_of_ofText? {s : String} {c : Char} (h : (ofText? s).isSome = true)
    (hc : c ∈ s.toList) : Numeral.IsNumberChar c := by
  unfold ofText? at h
  dsimp only at h
  split at h
  · cases h
  · rename_i hdigits
    have hall : ∀ d ∈ (Numeral.splitSign s.toList).2, d.isDigit = true := by
      simp only [Bool.or_eq_true, not_or, Bool.not_eq_true, Bool.not_eq_false', List.all_eq_true]
        at hdigits
      exact hdigits.2
    exact Numeral.isNumberChar_of_splitSign hc fun hc =>
      Numeral.isNumberChar_of_isDigit (hall c hc)

/-- What is read as an integer is printed as it was, if and only if it is plain. -/
theorem toString_eq_iff (h : ofText? s = some n) : toString n = s ↔ IsPlain s := by
  constructor
  · rintro rfl
    exact isPlain_toString n
  · rintro ⟨digits, hdigits, hs | ⟨hnonzero, hs⟩⟩
    · obtain rfl := Option.some.inj (h.symm.trans ((ofText?_of_digits hdigits).1 hs))
      rw [← String.toList_inj, hs]
      show (Nat.repr (digitsValue digits)).toList = digits
      rw [Nat.repr, String.toList_ofList, hdigits.toDigits_digitsValue]
    · obtain rfl := Option.some.inj (h.symm.trans ((ofText?_of_digits hdigits).2 hs))
      have hvalue := hdigits.toDigits_digitsValue
      cases hcases : digitsValue digits with
      | zero =>
          rw [hcases] at hvalue
          exact absurd hvalue.symm hnonzero
      | succ k =>
          rw [hcases] at hvalue
          rw [← String.toList_inj, hs]
          show ("-" ++ Nat.repr (k + 1)).toList = _
          simp [Nat.repr, hvalue]

end Integer

end Prelaunch
