import Mathlib.Algebra.Order.Field.Basic
import Mathlib.Algebra.Order.Field.Power
import Mathlib.Data.Rat.Cast.Order
import Mathlib.Tactic.Linarith
import Prelaunch.Proofs.Success
import Prelaunch.Settings.Override
import Prelaunch.Settings.Reading

/-!
What single values stand for, said apart from the code that reads them: the text that is printed for
a value, the count that a value is, and what the text of a variable is taken for. The readers give
just these.
-/

namespace Prelaunch

/-! Numbers that are rounded. -/

namespace Double

/-- The nearest natural number, a half above it being nearer to the next one. What is negative or no
number is zero, and what is too great the limit. -/
inductive RoundsTo (limit : Nat) : Double → Nat → Prop where
  | nan : RoundsTo limit .nan 0
  | negative {x : Double} (h : x.isNegative = true) : RoundsTo limit x 0
  | infinite : RoundsTo limit (.infinite false) limit
  | beyond {m : Nat} {e : Int} (h : (limit : ℚ) < m * 2 ^ e) : RoundsTo limit (.finite false m e) limit
  | nearest {m n : Nat} {e : Int} (hlimit : n ≤ limit) (hlow : (n : ℚ) - 1 / 2 ≤ m * 2 ^ e)
      (hhigh : (m : ℚ) * 2 ^ e < n + 1 / 2) : RoundsTo limit (.finite false m e) n

/-- The two numbers whose quotient is rounded. -/
theorem quotient_eq (m : Nat) (e : Int) :
    ((m * twoTo e.toNat : Nat) : ℚ) / (twoTo (-e).toNat : Nat) = m * 2 ^ e := by
  have hpow (k : Nat) : ((twoTo k : Nat) : ℚ) = 2 ^ k := by
    show ((2 ^ k : Nat) : ℚ) = 2 ^ k
    push_cast
    rfl
  rw [Nat.cast_mul, hpow, hpow]
  obtain ⟨k, rfl | rfl⟩ := e.eq_nat_or_neg
  · simp
  · simp [zpow_neg, div_eq_mul_inv]

theorem roundAway_eq_iff {m n : Nat} {e : Int} :
    roundAway m e = n ↔ (n : ℚ) - 1 / 2 ≤ m * 2 ^ e ∧ (m : ℚ) * 2 ^ e < n + 1 / 2 := by
  have hpos : 0 < twoTo (-e).toNat := Nat.pow_pos (by decide)
  rw [← quotient_eq]
  unfold roundAway
  dsimp only
  generalize m * twoTo e.toNat = a
  generalize twoTo (-e).toNat = d at hpos
  have hd : (0 : ℚ) < d := by exact_mod_cast hpos
  rw [le_div_iff₀ hd, div_lt_iff₀ hd, Nat.div_eq_iff (by omega)]
  constructor
  · rintro ⟨hlow, hhigh⟩
    have hlow' : ((n * (2 * d) : Nat) : ℚ) ≤ (2 * a + d : Nat) := by exact_mod_cast hlow
    have hhigh' : ((2 * a + d + 1 : Nat) : ℚ) ≤ (n * (2 * d) + 2 * d : Nat) := by
      exact_mod_cast (by omega)
    push_cast at hlow' hhigh'
    constructor <;> linarith
  · rintro ⟨hlow, hhigh⟩
    have hlow' : ((n * (2 * d) : Nat) : ℚ) ≤ (2 * a + d : Nat) := by
      push_cast
      linarith
    have hhigh' : ((2 * a + d : Nat) : ℚ) < (n * (2 * d) + 2 * d : Nat) := by
      push_cast
      linarith
    have hlow'' : n * (2 * d) ≤ 2 * a + d := by exact_mod_cast hlow'
    have hhigh'' : 2 * a + d < n * (2 * d) + 2 * d := by exact_mod_cast hhigh'
    omega

theorem roundsTo_iff {limit n : Nat} {x : Double} : RoundsTo limit x n ↔ x.toNatWithin limit = n := by
  constructor
  · intro h
    cases h with
    | nan => rfl
    | negative h =>
        cases x with
        | nan => rfl
        | infinite negative => exact if_pos h
        | finite negative m e => exact if_pos h
    | infinite => rfl
    | @beyond m e h =>
        show min limit (roundAway m e) = limit
        -- what is above the limit is not rounded to less
        obtain ⟨-, hhigh⟩ := roundAway_eq_iff.1 (rfl : roundAway m e = roundAway m e)
        have hle : (limit : ℚ) < roundAway m e + 1 := by linarith
        have hle' : limit < roundAway m e + 1 := by exact_mod_cast hle
        omega
    | nearest hlimit hlow hhigh =>
        show min limit (roundAway _ _) = n
        rw [roundAway_eq_iff.2 ⟨hlow, hhigh⟩]
        omega
  · rintro rfl
    cases x with
    | nan => exact .nan
    | infinite negative =>
        cases negative with
        | true => exact .negative rfl
        | false => exact .infinite
    | finite negative m e =>
        cases negative with
        | true => exact .negative rfl
        | false =>
            show RoundsTo limit _ (min limit (roundAway m e))
            obtain ⟨hlow, hhigh⟩ := roundAway_eq_iff.1 (rfl : roundAway m e = roundAway m e)
            by_cases hlimit : roundAway m e ≤ limit
            · rw [Nat.min_eq_right hlimit]
              exact .nearest hlimit hlow hhigh
            · rw [Nat.min_eq_left (by omega)]
              refine .beyond ?_
              have hnext : (limit : ℚ) + 1 ≤ roundAway m e := by exact_mod_cast Nat.lt_of_not_le hlimit
              linarith

end Double

namespace Settings

def truthWord (b : Bool) : String := if b then "true" else "false"

namespace Scalar

/-- A text is printed as it is, and any other value as it is shown. -/
inductive Prints : Scalar → String → Prop where
  | text (s : String) : Prints (.text s) s
  | truth (b : Bool) : Prints (.boolean b) (truthWord b)
  | integer (n : Int) : Prints (.integer n) (toString n)
  | double (x : Double) : Prints (.double x) x.text

/-- Words for one and for zero. -/
def countWords (b : Bool) : List String := if b then ["true", "on", "yes"] else ["false", "off", "no"]

/-- The count that a value is: truth is one, a number is rounded, and a text is a word in any letter
case or a number without a sign. -/
inductive Counts : Scalar → Nat → Prop where
  | truth (b : Bool) : Counts (.boolean b) b.toNat
  | integer (n : Nat) : Counts (.integer n) n
  | double {x : Double} {n : Nat} (h : x.RoundsTo Integer.maxUnsigned64 n) : Counts (.double x) n
  | word {s : String} {b : Bool} (h : Text.lowercase s ∈ countWords b) : Counts (.text s) b.toNat
  | numeral {s : String} {n : Nat} (hword : ∀ b, Text.lowercase s ∉ countWords b)
      (h : Integer.unsigned64OfText? s = some n) : Counts (.text s) n

/-- A count, or nothing where none is given. -/
inductive CountsIfAny : Scalar → Option Nat → Prop where
  | nothing : CountsIfAny .nothing none
  | count {s : Scalar} {n : Nat} (h : s.Counts n) : CountsIfAny s (some n)

end Scalar

/-! What the readers give. -/

namespace Named

variable {key : String} {t : Tree}

theorem text_eq_ok_iff {s : String} :
    text ⟨key, t⟩ = .ok s ↔ ∃ origin v, t = .scalar origin v ∧ v.Prints s := by
  constructor
  · intro h
    cases t with
    | table => cases h
    | array => cases h
    | scalar origin v =>
        refine ⟨origin, v, rfl, ?_⟩
        cases v with
        | nothing => cases h
        | boolean b => exact Except.ok.inj h ▸ .truth b
        | integer n => exact Except.ok.inj h ▸ .integer n
        | double x => exact Except.ok.inj h ▸ .double x
        | text s' => exact Except.ok.inj h ▸ .text s'
  · rintro ⟨origin, v, rfl, hprints⟩
    cases hprints <;> rfl

theorem wordCount?_eq_some_iff {s : String} {n : Nat} :
    wordCount? s = some n ↔ Scalar.Counts (.text s) n := by
  have hone : (Text.lowercase s == "true" || Text.lowercase s == "on" || Text.lowercase s == "yes") =
      true ↔ Text.lowercase s ∈ Scalar.countWords true := by
    simp [Scalar.countWords, or_assoc]
  have hzero : (Text.lowercase s == "false" || Text.lowercase s == "off" ||
      Text.lowercase s == "no") = true ↔ Text.lowercase s ∈ Scalar.countWords false := by
    simp [Scalar.countWords, or_assoc]
  unfold wordCount?
  dsimp only
  rw [ite_congr (propext hone) (fun _ => rfl) fun _ => ite_congr (propext hzero) (fun _ => rfl)
    fun _ => rfl]
  constructor
  · intro h
    split at h
    · rename_i hword
      exact Option.some.inj h ▸ .word (b := true) hword
    · rename_i hnot
      split at h
      · rename_i hword
        exact Option.some.inj h ▸ .word (b := false) hword
      · rename_i hnot'
        exact .numeral (fun | true => hnot | false => hnot') h
  · intro h
    cases h with
    | @word _ b hword =>
        cases b with
        | true => rw [if_pos hword]; rfl
        | false =>
            -- no word is one for both
            have hdisjoint : ∀ w ∈ Scalar.countWords false, w ∉ Scalar.countWords true := by
              decide
            have hnot := hdisjoint _ hword
            rw [if_neg hnot, if_pos hword]
            rfl
    | numeral hword h => rw [if_neg (hword true), if_neg (hword false), h]

theorem count_eq_ok_iff {n : Nat} :
    count ⟨key, t⟩ = .ok n ↔ ∃ origin v, t = .scalar origin v ∧ v.Counts n := by
  constructor
  · intro h
    cases t with
    | table => cases h
    | array => cases h
    | scalar origin v =>
        refine ⟨origin, v, rfl, ?_⟩
        cases v with
        | nothing => cases h
        | boolean b =>
            have hn : (if b then 1 else 0) = n := Except.ok.inj h
            rw [← hn]
            cases b with
            | true => exact .truth true
            | false => exact .truth false
        | integer i =>
            unfold count at h
            dsimp only at h
            split at h
            · rename_i hpos
              obtain ⟨k, rfl⟩ := Int.eq_ofNat_of_zero_le hpos
              exact Except.ok.inj h ▸ .integer k
            · cases h
        | double x => exact .double (Double.roundsTo_iff.2 (Except.ok.inj h))
        | text s =>
            unfold count at h
            dsimp only at h
            split at h
            · rename_i i hword
              exact Except.ok.inj h ▸ wordCount?_eq_some_iff.1 hword
            · cases h
  · rintro ⟨origin, v, rfl, hcounts⟩
    cases v with
    | nothing => cases hcounts
    | boolean b =>
        cases hcounts
        cases b <;> rfl
    | integer i =>
        cases hcounts with
        | integer =>
            unfold count
            dsimp only
            rw [if_pos (Int.natCast_nonneg n), Int.toNat_natCast]
    | double x =>
        cases hcounts with
        | double h => exact congrArg Except.ok (Double.roundsTo_iff.1 h)
    | text s =>
        unfold count
        dsimp only
        rw [wordCount?_eq_some_iff.2 hcounts]

theorem optionalCount_eq_ok_iff {n : Option Nat} :
    optionalCount ⟨key, t⟩ = .ok n ↔ ∃ origin v, t = .scalar origin v ∧ v.CountsIfAny n := by
  by_cases hnothing : ∃ origin, t = .scalar origin .nothing
  · obtain ⟨origin, rfl⟩ := hnothing
    constructor
    · intro h
      exact ⟨origin, .nothing, rfl, Except.ok.inj h ▸ .nothing⟩
    · rintro ⟨origin', v, heq, hcounts⟩
      obtain ⟨rfl, rfl⟩ := Tree.scalar.inj heq
      cases hcounts with
      | nothing => rfl
      | count h => cases h
  · have hcount : optionalCount ⟨key, t⟩ = (count ⟨key, t⟩).map some := by
      unfold optionalCount
      dsimp only
      split
      · rename_i origin
        exact absurd ⟨origin, rfl⟩ hnothing
      · rfl
    rw [hcount, map_eq_ok]
    constructor
    · rintro ⟨k, hread, rfl⟩
      obtain ⟨origin, v, ht, hcounts⟩ := count_eq_ok_iff.1 hread
      exact ⟨origin, v, ht, .count hcounts⟩
    · rintro ⟨origin, v, rfl, hcounts⟩
      cases hcounts with
      | nothing => exact absurd ⟨origin, rfl⟩ hnothing
      | count h => exact ⟨_, count_eq_ok_iff.2 ⟨origin, v, rfl, h⟩, rfl⟩

end Named

/-! The text of a variable. -/

namespace Override

variable {v : String} {s : Scalar}

/-- What the text of a variable is read as: a word for a truth value in any letter case, an integer of
64 bits, another number, or else a text. -/
inductive Reads (v : String) : Scalar → Prop where
  | truth {b : Bool} (h : Text.lowercase v = truthWord b) : Reads v (.boolean b)
  | integer {n : Int} (htruth : ∀ b, Text.lowercase v ≠ truthWord b)
      (h : Integer.signed64OfText? v = some n) : Reads v (.integer n)
  | double {x : Double} (htruth : ∀ b, Text.lowercase v ≠ truthWord b)
      (hinteger : Integer.signed64OfText? v = none) (h : Double.ofText? v = some x) :
      Reads v (.double x)
  | text (htruth : ∀ b, Text.lowercase v ≠ truthWord b)
      (hinteger : Integer.signed64OfText? v = none) (hdouble : Double.ofText? v = none) :
      Reads v (.text v)

theorem reads_iff : Reads v s ↔ scalar v = s := by
  unfold scalar
  constructor
  · intro h
    cases h with
    | @truth b h => cases b <;> simp [h, truthWord]
    | integer htruth h =>
        simp [show _ ≠ "true" from htruth true, show _ ≠ "false" from htruth false, h]
    | double htruth hinteger h =>
        simp [show _ ≠ "true" from htruth true, show _ ≠ "false" from htruth false, hinteger, h]
    | text htruth hinteger hdouble =>
        simp [show _ ≠ "true" from htruth true, show _ ≠ "false" from htruth false, hinteger,
          hdouble]
  · rintro rfl
    dsimp only
    split
    · rename_i h
      exact .truth (b := true) (beq_iff_eq.1 h)
    · rename_i htrue
      split
      · rename_i h
        exact .truth (b := false) (beq_iff_eq.1 h)
      · rename_i hfalse
        have htruth : ∀ b, Text.lowercase v ≠ truthWord b
          | true => fun h => htrue (beq_iff_eq.2 h)
          | false => fun h => hfalse (beq_iff_eq.2 h)
        split
        · rename_i hinteger
          exact .integer htruth hinteger
        · rename_i hinteger hdouble
          exact .double htruth hinteger hdouble
        · rename_i hinteger hdouble
          exact .text htruth hinteger hdouble

end Override

end Settings

end Prelaunch
