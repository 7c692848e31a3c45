import Prelaunch.Json.Basic
import Prelaunch.Proofs.Json.Number
import Prelaunch.Proofs.Json.Token
import Mathlib.Tactic.SplitIfs

/-!
The grammar of documents, and that they are read by it: a run of bytes is read as a document exactly
if it writes that document.
-/

namespace Prelaunch.Json

/-! Words. -/

inductive WordWritten : Json → Bytes → Prop where
  | null : WordWritten .null (Utf8.encode "null")
  | yes : WordWritten (.boolean true) (Utf8.encode "true")
  | no : WordWritten (.boolean false) (Utf8.encode "false")
  | number {n : Number} {word : Bytes} (h : n.Written (word.map fun b => Char.ofNat b.toNat)) :
      WordWritten (.number n) word

theorem ofBare?_eq_some {word : Bytes} {v : Json} :
    ofBare? word = some v ↔ WordWritten v word := by
  constructor
  · intro h
    simp only [ofBare?, beq_iff_eq] at h
    split_ifs at h with hnull hyes hno
    · rw [hnull, ← Option.some.inj h]
      exact .null
    · rw [hyes, ← Option.some.inj h]
      exact .yes
    · rw [hno, ← Option.some.inj h]
      exact .no
    · obtain ⟨n, hn, rfl⟩ := Option.map_eq_some_iff.1 h
      exact .number (Number.ofChars?_eq_some.1 hn)
  · rintro (_ | _ | _ | hn)
    · rfl
    · rfl
    · rfl
    · have hnumber : Number.ofBytes? word = some _ := Number.ofChars?_eq_some.2 hn
      have hother (name : String) (hname : Number.ofBytes? (Utf8.encode name) = none) :
          (word == Utf8.encode name) = false := by
        refine beq_eq_false_iff_ne.2 ?_
        rintro rfl
        rw [hname] at hnumber
        cases hnumber
      simp [ofBare?, hother "null" (by decide), hother "true" (by decide),
        hother "false" (by decide), hnumber]

/-! Texts. -/

def IsHexDigit (b : UInt8) : Prop :=
  (0x30 ≤ b ∧ b ≤ 0x39) ∨ (0x41 ≤ b ∧ b ≤ 0x46) ∨ (0x61 ≤ b ∧ b ≤ 0x66)

theorem hexValue?_isSome {b : UInt8} : (Text.hexValue? b).isSome = true ↔ IsHexDigit b := by
  unfold Text.hexValue? IsHexDigit
  grind

theorem hex4?_isSome {a b c d : UInt8} : (hex4? a b c d).isSome = true ↔
    IsHexDigit a ∧ IsHexDigit b ∧ IsHexDigit c ∧ IsHexDigit d := by
  simp only [← hexValue?_isSome, hex4?, List.foldlM_cons, List.foldlM_nil]
  cases Text.hexValue? a <;> cases Text.hexValue? b <;> cases Text.hexValue? c <;>
    cases Text.hexValue? d <;> simp

/-- Each backslash begins an escape: a letter or mark of eight, or four digits after a `u`. -/
inductive IsEscaped : Bytes → Prop where
  | nil : IsEscaped []
  | plain {b : UInt8} {raw : Bytes} (hb : b ≠ 0x5C) (h : IsEscaped raw) : IsEscaped (b :: raw)
  | short {e : UInt8} {raw : Bytes}
      (he : e ∈ ([0x22, 0x5C, 0x2F, 0x62, 0x66, 0x6E, 0x72, 0x74] : Bytes)) (h : IsEscaped raw) :
      IsEscaped (0x5C :: e :: raw)
  | unicode {a b c d : UInt8} {raw : Bytes} (ha : IsHexDigit a) (hb : IsHexDigit b)
      (hc : IsHexDigit c) (hd : IsHexDigit d) (h : IsEscaped raw) :
      IsEscaped (0x5C :: 0x75 :: a :: b :: c :: d :: raw)

theorem shortEscape?_isSome {e : UInt8} : (shortEscape? e).isSome = true ↔
    e ∈ ([0x22, 0x5C, 0x2F, 0x62, 0x66, 0x6E, 0x72, 0x74] : Bytes) := by
  simp only [List.mem_cons, List.not_mem_nil, or_false]
  unfold shortEscape?
  grind

theorem hasSoundEscapes_iff {raw : Bytes} : hasSoundEscapes raw = true ↔ IsEscaped raw := by
  constructor
  · intro h
    fun_induction hasSoundEscapes raw with
    | case1 => exact .nil
    | case2 a b c d rest ih =>
        obtain ⟨hdigits, hrest⟩ := Bool.and_eq_true_iff.1 h
        obtain ⟨ha, hb, hc, hd⟩ := hex4?_isSome.1 hdigits
        exact .unicode ha hb hc hd (ih hrest)
    | case3 e rest _ ih =>
        obtain ⟨he, hrest⟩ := Bool.and_eq_true_iff.1 h
        exact .short (shortEscape?_isSome.1 he) (ih hrest)
    | case4 => cases h
    | case5 b rest _ hescape hlone ih =>
        refine .plain ?_ (ih h)
        rintro rfl
        cases rest with
        | nil => exact hlone rfl rfl
        | cons e rest => exact hescape e rest rfl rfl
  · intro h
    induction h with
    | nil => rfl
    | plain hb h ih =>
        rw [hasSoundEscapes]
        · exact ih
        all_goals simp [hb]
    | @short e raw he h ih =>
        have hu : e ≠ 0x75 := by
          rintro rfl
          revert he
          decide
        rw [hasSoundEscapes, shortEscape?_isSome.2 he, ih]
        · rfl
        · simp [hu]
    | unicode ha hb hc hd h ih =>
        rw [hasSoundEscapes, hex4?_isSome.2 ⟨ha, hb, hc, hd⟩, ih]
        rfl

/-! Documents as tokens. -/

mutual

inductive Listed : Json → List Token → Prop where
  | word {v : Json} {word : Bytes} (h : WordWritten v word) : Listed v [.bare word]
  | text {raw : Bytes} (h : IsEscaped raw) : Listed (.text raw) [.text raw]
  | emptyArray : Listed (.array []) [.openArray, .closeArray]
  | array {v : Json} {vs : List Json} {ts us : List Token} (hv : Listed v ts)
      (hvs : ItemsListed vs us) :
      Listed (.array (v :: vs)) (.openArray :: (ts ++ (us ++ [.closeArray])))
  | emptyObject : Listed (.object []) [.openObject, .closeObject]
  | object {key : Bytes} {v : Json} {members : List (Bytes × Json)} {ts us : List Token}
      (hkey : IsEscaped key) (hv : Listed v ts) (hmembers : MembersListed members us) :
      Listed (.object ((key, v) :: members))
        (.openObject :: .text key :: .colon :: (ts ++ (us ++ [.closeObject])))

/-- Items after the first one. -/
inductive ItemsListed : List Json → List Token → Prop where
  | nil : ItemsListed [] []
  | cons {v : Json} {vs : List Json} {ts us : List Token} (hv : Listed v ts)
      (hvs : ItemsListed vs us) : ItemsListed (v :: vs) (.comma :: (ts ++ us))

/-- Members after the first one. -/
inductive MembersListed : List (Bytes × Json) → List Token → Prop where
  | nil : MembersListed [] []
  | cons {key : Bytes} {v : Json} {members : List (Bytes × Json)} {ts us : List Token}
      (hkey : IsEscaped key) (hv : Listed v ts) (hmembers : MembersListed members us) :
      MembersListed ((key, v) :: members) (.comma :: .text key :: .colon :: (ts ++ us))

end

/-- The bytes write the document, with blanks wherever they may be. -/
def Written (v : Json) (bs : Bytes) : Prop := ∃ ts, Listed v ts ∧ Token.Written ts bs

namespace Reading

variable {d v : Json} {items : List Json} {members : List (Bytes × Json)} {key : Bytes}
  {outer : List Frame} {t : Token} {ts : List Token}

/-- What still has to come for a value that is complete to end up in the document: the rest of each
array and object around it. -/
def Closes (d : Json) : List Frame → Json → List Token → Prop
  | [], v, ts => v = d ∧ ts = []
  | .array items :: outer, v, ts => ∃ vs us rest, ItemsListed vs us ∧
      ts = us ++ .closeArray :: rest ∧ Closes d outer (.array ((v :: items).reverse ++ vs)) rest
  | .object members key :: outer, v, ts => ∃ others us rest, MembersListed others us ∧
      ts = us ++ .closeObject :: rest ∧
      Closes d outer (.object (((key, v) :: members).reverse ++ others)) rest

def AwaitsValue (d : Json) (outer : List Frame) (ts : List Token) : Prop :=
  ∃ v us rest, Listed v us ∧ ts = us ++ rest ∧ Closes d outer v rest

def AwaitsMember (d : Json) (members : List (Bytes × Json)) (outer : List Frame)
    (ts : List Token) : Prop :=
  ∃ key rest, IsEscaped key ∧ ts = .text key :: .colon :: rest ∧
    AwaitsValue d (.object members key :: outer) rest

/-- What still has to come for a document to be complete. -/
def Leaves (d : Json) : Reading → List Token → Prop
  | .complete v, ts => v = d ∧ ts = []
  | .value outer, ts => AwaitsValue d outer ts
  | .firstItem outer, ts => (∃ rest, ts = .closeArray :: rest ∧ Closes d outer (.array []) rest) ∨
      AwaitsValue d (.array [] :: outer) ts
  | .nextKey members outer, ts => AwaitsMember d members outer ts
  | .firstKey outer, ts =>
      (∃ rest, ts = .closeObject :: rest ∧ Closes d outer (.object []) rest) ∨
      AwaitsMember d [] outer ts
  | .colon members key outer, ts => ∃ rest, ts = .colon :: rest ∧
      AwaitsValue d (.object members key :: outer) rest
  | .afterItem items outer, ts => ∃ vs us rest, ItemsListed vs us ∧
      ts = us ++ .closeArray :: rest ∧ Closes d outer (.array (items.reverse ++ vs)) rest
  | .afterMember members outer, ts => ∃ others us rest, MembersListed others us ∧
      ts = us ++ .closeObject :: rest ∧ Closes d outer (.object (members.reverse ++ others)) rest

@[simp] theorem leaves_close : (close v outer).Leaves d ts ↔ Closes d outer v ts := by
  rcases outer with _ | ⟨_ | _, outer⟩ <;> rfl

@[simp] theorem leaves_value : (value outer).Leaves d ts ↔ AwaitsValue d outer ts := .rfl

@[simp] theorem leaves_nextKey :
    (nextKey members outer).Leaves d ts ↔ AwaitsMember d members outer ts := .rfl

/-! One token. -/

theorem awaitsValue_openArray : AwaitsValue d outer (.openArray :: ts) ↔
    (firstItem outer).Leaves d ts := by
  constructor
  · rintro ⟨v, us, rest, hv, hts, hcloses⟩
    cases hv with
    | emptyArray =>
        obtain ⟨-, rfl⟩ := List.cons.inj hts
        exact .inl ⟨rest, rfl, hcloses⟩
    | array hv hvs =>
        obtain ⟨-, rfl⟩ := List.cons.inj hts
        exact .inr ⟨_, _, _, hv, by simp, _, _, rest, hvs, rfl, hcloses⟩
    | _ => cases hts
  · rintro (⟨rest, rfl, hcloses⟩ | ⟨v, us, _, hv, rfl, vs, us', rest, hvs, rfl, hcloses⟩)
    · exact ⟨_, _, rest, .emptyArray, rfl, hcloses⟩
    · exact ⟨_, _, rest, .array hv hvs, by simp, hcloses⟩

theorem awaitsValue_openObject : AwaitsValue d outer (.openObject :: ts) ↔
    (firstKey outer).Leaves d ts := by
  constructor
  · rintro ⟨v, us, rest, hv, hts, hcloses⟩
    cases hv with
    | emptyObject =>
        obtain ⟨-, rfl⟩ := List.cons.inj hts
        exact .inl ⟨rest, rfl, hcloses⟩
    | object hkey hv hmembers =>
        obtain ⟨-, rfl⟩ := List.cons.inj hts
        exact .inr ⟨_, _, hkey, rfl, _, _, _, hv, by simp, _, _, rest, hmembers, rfl, hcloses⟩
    | _ => cases hts
  · rintro (⟨rest, rfl, hcloses⟩ | ⟨key, _, hkey, rfl, v, us, _, hv, rfl, others, us', rest,
      hothers, rfl, hcloses⟩)
    · exact ⟨_, _, rest, .emptyObject, rfl, hcloses⟩
    · exact ⟨_, _, rest, .object hkey hv hothers, by simp, hcloses⟩

theorem awaitsValue_cons : AwaitsValue d outer (t :: ts) ↔
    ∃ s, takeValue outer t = some s ∧ s.Leaves d ts := by
  cases t with
  | openArray => simp [takeValue, awaitsValue_openArray]
  | openObject => simp [takeValue, awaitsValue_openObject]
  | text raw =>
      constructor
      · rintro ⟨v, us, rest, hv, hts, hcloses⟩
        cases hv with
        | text hraw =>
            obtain ⟨⟨⟩, rfl⟩ := List.cons.inj hts
            exact ⟨_, if_pos (hasSoundEscapes_iff.2 hraw), leaves_close.2 hcloses⟩
        | _ => cases hts
      · rintro ⟨s, hs, hleaves⟩
        obtain ⟨hraw, hs⟩ := Option.ite_none_right_eq_some.1 hs
        obtain rfl := Option.some.inj hs
        exact ⟨_, _, ts, .text (hasSoundEscapes_iff.1 hraw), rfl, leaves_close.1 hleaves⟩
  | bare word =>
      constructor
      · rintro ⟨v, us, rest, hv, hts, hcloses⟩
        cases hv with
        | word hword =>
            obtain ⟨⟨⟩, rfl⟩ := List.cons.inj hts
            exact ⟨_, Option.map_eq_some_iff.2 ⟨v, ofBare?_eq_some.2 hword, rfl⟩,
              leaves_close.2 hcloses⟩
        | _ => cases hts
      · rintro ⟨s, hs, hleaves⟩
        obtain ⟨v, hword, rfl⟩ := Option.map_eq_some_iff.1 hs
        exact ⟨v, _, ts, .word (ofBare?_eq_some.1 hword), rfl, leaves_close.1 hleaves⟩
  | _ =>
      simp only [takeValue, reduceCtorEq, false_and, exists_false, iff_false]
      rintro ⟨v, us, rest, hv, hts, -⟩
      cases hv <;> cases hts

theorem awaitsMember_cons : AwaitsMember d members outer (t :: ts) ↔
    ∃ s, takeKey members outer t = some s ∧ s.Leaves d ts := by
  cases t with
  | text raw =>
      constructor
      · rintro ⟨key, rest, hkey, hts, hvalue⟩
        obtain ⟨⟨⟩, rfl⟩ := List.cons.inj hts
        exact ⟨_, if_pos (hasSoundEscapes_iff.2 hkey), rest, rfl, hvalue⟩
      · rintro ⟨s, hs, hleaves⟩
        obtain ⟨hkey, hs⟩ := Option.ite_none_right_eq_some.1 hs
        obtain rfl := Option.some.inj hs
        obtain ⟨rest, rfl, hvalue⟩ := hleaves
        exact ⟨raw, rest, hasSoundEscapes_iff.1 hkey, rfl, hvalue⟩
  | _ =>
      simp only [takeKey, reduceCtorEq, false_and, exists_false, iff_false]
      rintro ⟨key, rest, -, ⟨⟩, -⟩

theorem leaves_afterItem_cons : (afterItem items outer).Leaves d (t :: ts) ↔
    (t = .comma ∧ AwaitsValue d (.array items :: outer) ts) ∨
      (t = .closeArray ∧ Closes d outer (.array items.reverse) ts) := by
  constructor
  · rintro ⟨vs, us, rest, hvs, hts, hcloses⟩
    cases hvs with
    | nil =>
        obtain ⟨rfl, rfl⟩ := List.cons.inj hts
        exact .inr ⟨rfl, by simpa using hcloses⟩
    | cons hv hvs =>
        obtain ⟨rfl, rfl⟩ := List.cons.inj hts
        exact .inl ⟨rfl, _, _, _, hv, List.append_assoc .., _, _, rest, hvs, rfl,
          by simpa using hcloses⟩
  · rintro (⟨rfl, v, us, _, hv, rfl, vs, us', rest, hvs, rfl, hcloses⟩ | ⟨rfl, hcloses⟩)
    · exact ⟨_, _, rest, .cons hv hvs, by simp, by simpa using hcloses⟩
    · exact ⟨[], [], ts, .nil, rfl, by simpa using hcloses⟩

theorem leaves_afterMember_cons : (afterMember members outer).Leaves d (t :: ts) ↔
    (t = .comma ∧ AwaitsMember d members outer ts) ∨
      (t = .closeObject ∧ Closes d outer (.object members.reverse) ts) := by
  constructor
  · rintro ⟨others, us, rest, hothers, hts, hcloses⟩
    cases hothers with
    | nil =>
        obtain ⟨rfl, rfl⟩ := List.cons.inj hts
        exact .inr ⟨rfl, by simpa using hcloses⟩
    | cons hkey hv hothers =>
        obtain ⟨rfl, rfl⟩ := List.cons.inj hts
        exact .inl ⟨rfl, _, _, hkey, rfl, _, _, _, hv, List.append_assoc .., _, _, rest, hothers,
          rfl, by simpa using hcloses⟩
  · rintro (⟨rfl, key, _, hkey, rfl, v, us, _, hv, rfl, others, us', rest, hothers, rfl,
      hcloses⟩ | ⟨rfl, hcloses⟩)
    · exact ⟨_, _, rest, .cons hkey hv hothers, by simp, by simpa using hcloses⟩
    · exact ⟨[], [], ts, .nil, rfl, by simpa using hcloses⟩

theorem leaves_cons {s : Reading} : s.Leaves d (t :: ts) ↔
    ∃ s', s.take t = some s' ∧ s'.Leaves d ts := by
  cases s with
  | value outer => exact awaitsValue_cons
  | firstItem outer =>
      change _ ∨ AwaitsValue d _ _ ↔ _
      rw [awaitsValue_cons]
      cases t <;> simp [take, takeValue]
  | nextKey members outer => exact awaitsMember_cons
  | firstKey outer =>
      change _ ∨ AwaitsMember d _ _ _ ↔ _
      rw [awaitsMember_cons]
      cases t <;> simp [take, takeKey]
  | colon members key outer => cases t <;> simp [take, Leaves]
  | afterItem items outer =>
      rw [leaves_afterItem_cons]
      cases t <;> simp [take]
  | afterMember members outer =>
      rw [leaves_afterMember_cons]
      cases t <;> simp [take]
  | complete v => simp [take, Leaves]

/-! A run. -/

theorem not_awaitsValue_nil : ¬AwaitsValue d outer [] := by
  rintro ⟨v, us, rest, hv, hts, -⟩
  cases hv <;> cases hts

theorem leaves_nil {s : Reading} : s.Leaves d [] ↔ s = .complete d := by
  cases s <;> simp [Leaves, AwaitsMember, not_awaitsValue_nil]

theorem foldlM_take_eq_some {s : Reading} :
    ts.foldlM take s = some (.complete d) ↔ s.Leaves d ts := by
  induction ts generalizing s with
  | nil => simp [leaves_nil]
  | cons t ts ih => simp [leaves_cons, Option.bind_eq_some_iff, ih]

end Reading

/-- A run of bytes is read as a document exactly if it writes it. -/
theorem parse?_eq_some {v : Json} {bs : Bytes} : parse? bs = some v ↔ Written v bs := by
  have hstart (ts : List Token) : (Reading.value []).Leaves v ts ↔ Listed v ts := by
    constructor
    · rintro ⟨_, us, _, hv, rfl, rfl, rfl⟩
      rwa [List.append_nil]
    · intro hv
      exact ⟨v, ts, [], hv, (List.append_nil ts).symm, rfl, rfl⟩
  constructor
  · intro h
    obtain ⟨ts, hts, h⟩ := Option.bind_eq_some_iff.1 h
    obtain ⟨s, hs, h⟩ := Option.bind_eq_some_iff.1 h
    cases s with
    | complete w =>
        obtain rfl := Option.some.inj h
        exact ⟨ts, (hstart ts).1 (Reading.foldlM_take_eq_some.1 hs), Token.ofBytes?_eq_some.1 hts⟩
    | _ => cases h
  · rintro ⟨ts, hv, hts⟩
    have hread := Reading.foldlM_take_eq_some.2 ((hstart ts).2 hv)
    simp [parse?, Token.ofBytes?_eq_some.2 hts, hread]

/-- No bytes write two documents. -/
theorem Written.unique {v w : Json} {bs : Bytes} (hv : Written v bs) (hw : Written w bs) : v = w :=
  Option.some.inj ((parse?_eq_some.2 hv).symm.trans (parse?_eq_some.2 hw))

end Prelaunch.Json
