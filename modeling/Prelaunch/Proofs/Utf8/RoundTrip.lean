import Prelaunch.Proofs.Utf8

/-!
Texts and the bytes that spell them. What is encoded is read back, and a run of bytes that can be
read is the encoding of what it spells, so texts and well-formed runs stand for each other.
-/

namespace Prelaunch.Utf8

/-! Characters. -/

theorem lead_eq (b : UInt8) :
    lead b =
      if b.toNat < 0x80 then .whole (Char.ofNat b.toNat)
      else if b.toNat < 0xC2 then .stray
      else if b.toNat < 0xE0 then .opens ⟨1, 0x80, 0xBF, b.toNat - 0xC0⟩
      else if b.toNat < 0xF0 then
        .opens ⟨2, if b.toNat = 0xE0 then 0xA0 else 0x80, if b.toNat = 0xED then 0x9F else 0xBF,
          b.toNat - 0xE0⟩
      else if b.toNat < 0xF5 then
        .opens ⟨3, if b.toNat = 0xF0 then 0x90 else 0x80, if b.toNat = 0xF4 then 0x8F else 0xBF,
          b.toNat - 0xF0⟩
      else .stray := by
  simp only [lead, UInt8.lt_iff_toNat_lt, ← UInt8.toNat_inj]
  rfl

/-- A byte out of range ends the character that was begun, and is read anew. -/
theorem continuing_cons (o : Open) (b : UInt8) (rest : Bytes) :
    continuing o (b :: rest) =
      if o.low.toNat ≤ b.toNat ∧ b.toNat ≤ o.high.toNat then
        if o.missing ≤ 1 then some (Char.ofNat (o.bits * 64 + (b.toNat - 0x80))) :: pieces rest
        else continuing ⟨o.missing - 1, 0x80, 0xBF, o.bits * 64 + (b.toNat - 0x80)⟩ rest
      else none :: pieces (b :: rest) := by
  rw [continuing, pieces]
  simp only [UInt8.le_iff_toNat_le, Bool.and_eq_true, decide_eq_true_eq]
  split
  · rfl
  · cases lead b <;> rfl

theorem pieces_utf8EncodeChar (c : Char) (rest : Bytes) :
    pieces (String.utf8EncodeChar c ++ rest) = some c :: pieces rest := by
  have hvalid : c.val.toNat < 0xD800 ∨ 0xDFFF < c.val.toNat ∧ c.val.toNat < 0x110000 := c.valid
  have hread (n : Nat) (hn : n = c.val.toNat) :
      some (Char.ofNat n) :: pieces rest = some c :: pieces rest := by
    rw [hn, show Char.ofNat c.val.toNat = c from Char.ofNat_toNat c]
  have hbyte (n : Nat) (hn : n < 256) : (UInt8.ofNat n).toNat = n := by
    rw [UInt8.toNat_ofNat', Nat.mod_eq_of_lt hn]
  fun_cases String.utf8EncodeChar c with
  | case1 v hsmall =>
      have h₁ := hbyte v (by omega)
      rw [List.cons_append, pieces, lead_eq, h₁, if_pos (by omega)]
      exact hread v rfl
  | case2 v hlarge hsmall =>
      have h₁ := hbyte (v / 64 % 0x20 + 0xC0) (by omega)
      have h₂ := hbyte (v % 0x40 + 0x80) (by omega)
      rw [List.cons_append, pieces, lead_eq, h₁, if_neg (by omega), if_neg (by omega),
        if_pos (by omega)]
      dsimp only
      rw [List.cons_append, continuing_cons, h₂,
        if_pos ⟨Nat.le_add_left _ _, by simp; omega⟩, if_pos (Nat.le_refl 1)]
      exact hread _ (by dsimp only; omega)
  | case3 v hlarge _ hsmall =>
      have h₁ := hbyte (v / 4096 % 0x10 + 0xE0) (by omega)
      have h₂ := hbyte (v / 64 % 0x40 + 0x80) (by omega)
      have h₃ := hbyte (v % 0x40 + 0x80) (by omega)
      rw [List.cons_append, pieces, lead_eq, h₁, if_neg (by omega), if_neg (by omega),
        if_neg (by omega), if_pos (by omega)]
      dsimp only
      rw [List.cons_append, continuing_cons, h₂, if_pos, if_neg (by dsimp only; omega)]
      dsimp only
      rw [List.cons_append, continuing_cons, h₃,
        if_pos ⟨Nat.le_add_left _ _, by simp; omega⟩, if_pos (Nat.le_refl 1)]
      · exact hread _ (by dsimp only; omega)
      · dsimp only
        constructor
        · split <;> simp <;> omega
        · split <;> (simp; omega)
  | case4 v hlarge _ _ =>
      have h₁ := hbyte (v / 262144 % 0x08 + 0xF0) (by omega)
      have h₂ := hbyte (v / 4096 % 0x40 + 0x80) (by omega)
      have h₃ := hbyte (v / 64 % 0x40 + 0x80) (by omega)
      have h₄ := hbyte (v % 0x40 + 0x80) (by omega)
      rw [List.cons_append, pieces, lead_eq, h₁, if_neg (by omega), if_neg (by omega),
        if_neg (by omega), if_neg (by omega), if_pos (by omega)]
      dsimp only
      rw [List.cons_append, continuing_cons, h₂, if_pos, if_neg (by dsimp only; omega)]
      dsimp only
      rw [List.cons_append, continuing_cons, h₃,
        if_pos ⟨Nat.le_add_left _ _, by simp; omega⟩, if_neg (by dsimp only; omega)]
      dsimp only
      rw [List.cons_append, continuing_cons, h₄,
        if_pos ⟨Nat.le_add_left _ _, by simp; omega⟩, if_pos (Nat.le_refl 1)]
      · exact hread _ (by dsimp only; omega)
      · dsimp only
        constructor
        · split <;> simp <;> omega
        · split <;> (simp; omega)

/-- What has been begun goes on with a byte in its range, unless some piece is ill-formed. -/
theorem continuing_of_none_notMem {o : Open} {bs : Bytes} (h : none ∉ continuing o bs) :
    ∃ b rest, bs = b :: rest ∧ o.low.toNat ≤ b.toNat ∧ b.toNat ≤ o.high.toNat ∧
      (1 < o.missing →
        none ∉ continuing ⟨o.missing - 1, 0x80, 0xBF, o.bits * 64 + (b.toNat - 0x80)⟩ rest) := by
  cases bs with
  | nil => simp [continuing] at h
  | cons b rest =>
      rw [continuing_cons] at h
      split at h
      · rename_i hrange
        refine ⟨b, rest, rfl, hrange.1, hrange.2, fun hmore => ?_⟩
        rwa [if_neg (Nat.not_le.2 hmore)] at h
      · simp at h

theorem utf8EncodeChar_ofNat {n : Nat} (hvalid : n.isValidChar) :
    String.utf8EncodeChar (Char.ofNat n) =
      if n ≤ 0x7F then [UInt8.ofNat n]
      else if n ≤ 0x7FF then [UInt8.ofNat (n / 64 % 0x20 + 0xC0), UInt8.ofNat (n % 0x40 + 0x80)]
      else if n ≤ 0xFFFF then
        [UInt8.ofNat (n / 4096 % 0x10 + 0xE0), UInt8.ofNat (n / 64 % 0x40 + 0x80),
          UInt8.ofNat (n % 0x40 + 0x80)]
      else
        [UInt8.ofNat (n / 262144 % 0x08 + 0xF0), UInt8.ofNat (n / 4096 % 0x40 + 0x80),
          UInt8.ofNat (n / 64 % 0x40 + 0x80), UInt8.ofNat (n % 0x40 + 0x80)] := by
  have hn : (Char.ofNat n).val.toNat = n := by
    rw [Char.ofNat, dif_pos hvalid]
    rfl
  rw [String.utf8EncodeChar, hn]

theorem lt_of_lead_eq_whole {b : UInt8} {c : Char} (h : lead b = .whole c) : b.toNat < 0x80 := by
  rw [lead_eq] at h
  grind

theorem lead_eq_opens {b : UInt8} {o : Open} (h : lead b = .opens o) :
    0x80 ≤ o.low.toNat ∧ o.high.toNat ≤ 0xBF ∧
      ((o.missing = 1 ∧ 0xC2 ≤ b.toNat ∧ b.toNat < 0xE0) ∨
        (o.missing = 2 ∧ 0xE0 ≤ b.toNat ∧ b.toNat < 0xF0 ∧
          (b.toNat = 0xE0 → 0xA0 ≤ o.low.toNat) ∧ (b.toNat = 0xED → o.high.toNat ≤ 0x9F)) ∨
        (o.missing = 3 ∧ 0xF0 ≤ b.toNat ∧ b.toNat < 0xF5 ∧
          (b.toNat = 0xF0 → 0x90 ≤ o.low.toNat) ∧ (b.toNat = 0xF4 → o.high.toNat ≤ 0x8F))) := by
  rw [lead_eq] at h
  -- the bounds of the second byte are conditional themselves
  have hbounds (p : Prop) [Decidable p] (x y : UInt8) :
      (if p then x else y).toNat = if p then x.toNat else y.toNat := by split <;> rfl
  split at h
  · cases h
  · split at h
    · cases h
    · split at h
      · cases h
        simp
        omega
      · split at h
        · cases h
          simp only [hbounds]
          grind
        · split at h
          · cases h
            simp only [hbounds]
            grind
          · cases h

theorem ofNat_eq_of_toNat_eq {n : Nat} {b : UInt8} (h : n = b.toNat) : UInt8.ofNat n = b := by
  simp [h]

/-! Bytes that are in the ranges of one character are its encoding. -/

theorem exists_utf8EncodeChar_one {b : UInt8} (hlt : b.toNat < 0x80) :
    ∃ c, String.utf8EncodeChar c = [b] := by
  refine ⟨Char.ofNat b.toNat, ?_⟩
  rw [utf8EncodeChar_ofNat (Or.inl (by omega)), if_pos (by omega), ofNat_eq_of_toNat_eq rfl]

theorem exists_utf8EncodeChar_two {b b₂ : UInt8} (hge : 0xC2 ≤ b.toNat) (hlt : b.toNat < 0xE0)
    (hlow₂ : 0x80 ≤ b₂.toNat) (hhigh₂ : b₂.toNat ≤ 0xBF) :
    ∃ c, String.utf8EncodeChar c = [b, b₂] := by
  refine ⟨Char.ofNat ((b.toNat - 0xC0) * 64 + (b₂.toNat - 0x80)), ?_⟩
  rw [utf8EncodeChar_ofNat (Or.inl (by omega)), if_neg (by omega), if_pos (by omega),
    ofNat_eq_of_toNat_eq (b := b) (by omega), ofNat_eq_of_toNat_eq (b := b₂) (by omega)]

/-- The narrower ranges of the second byte leave out what two bytes spell, and surrogates. -/
theorem exists_utf8EncodeChar_three {b b₂ b₃ : UInt8} (hge : 0xE0 ≤ b.toNat) (hlt : b.toNat < 0xF0)
    (hlow₂ : 0x80 ≤ b₂.toNat) (hhigh₂ : b₂.toNat ≤ 0xBF)
    (hfirst : b.toNat = 0xE0 → 0xA0 ≤ b₂.toNat) (hsurrogate : b.toNat = 0xED → b₂.toNat ≤ 0x9F)
    (hlow₃ : 0x80 ≤ b₃.toNat) (hhigh₃ : b₃.toNat ≤ 0xBF) :
    ∃ c, String.utf8EncodeChar c = [b, b₂, b₃] := by
  let n := ((b.toNat - 0xE0) * 64 + (b₂.toNat - 0x80)) * 64 + (b₃.toNat - 0x80)
  have hvalid : n < 0xD800 ∨ 0xDFFF < n ∧ n < 0x110000 := by omega
  refine ⟨Char.ofNat n, ?_⟩
  rw [utf8EncodeChar_ofNat hvalid, if_neg (by omega), if_neg (by omega), if_pos (by omega),
    ofNat_eq_of_toNat_eq (b := b) (by omega), ofNat_eq_of_toNat_eq (b := b₂) (by omega),
    ofNat_eq_of_toNat_eq (b := b₃) (by omega)]

theorem exists_utf8EncodeChar_four {b b₂ b₃ b₄ : UInt8} (hge : 0xF0 ≤ b.toNat)
    (hlt : b.toNat < 0xF5) (hlow₂ : 0x80 ≤ b₂.toNat) (hhigh₂ : b₂.toNat ≤ 0xBF)
    (hfirst : b.toNat = 0xF0 → 0x90 ≤ b₂.toNat) (hlast : b.toNat = 0xF4 → b₂.toNat ≤ 0x8F)
    (hlow₃ : 0x80 ≤ b₃.toNat) (hhigh₃ : b₃.toNat ≤ 0xBF)
    (hlow₄ : 0x80 ≤ b₄.toNat) (hhigh₄ : b₄.toNat ≤ 0xBF) :
    ∃ c, String.utf8EncodeChar c = [b, b₂, b₃, b₄] := by
  let n := (((b.toNat - 0xF0) * 64 + (b₂.toNat - 0x80)) * 64 + (b₃.toNat - 0x80)) * 64 +
    (b₄.toNat - 0x80)
  have hvalid : n < 0xD800 ∨ 0xDFFF < n ∧ n < 0x110000 := by omega
  refine ⟨Char.ofNat n, ?_⟩
  rw [utf8EncodeChar_ofNat hvalid, if_neg (by omega), if_neg (by omega), if_neg (by omega),
    ofNat_eq_of_toNat_eq (b := b) (by omega), ofNat_eq_of_toNat_eq (b := b₂) (by omega),
    ofNat_eq_of_toNat_eq (b := b₃) (by omega), ofNat_eq_of_toNat_eq (b := b₄) (by omega)]

theorem exists_char_of_none_notMem {b : UInt8} {rest : Bytes} (h : none ∉ pieces (b :: rest)) :
    ∃ c rest', b :: rest = String.utf8EncodeChar c ++ rest' := by
  rw [pieces] at h
  cases hlead : lead b with
  | whole c =>
      obtain ⟨c, hc⟩ := exists_utf8EncodeChar_one (lt_of_lead_eq_whole hlead)
      exact ⟨c, rest, by rw [hc]; rfl⟩
  | stray =>
      rw [hlead] at h
      simp at h
  | opens o =>
      simp only [hlead] at h
      obtain ⟨b₂, rest, rfl, hlow₂, hhigh₂, hmore⟩ := continuing_of_none_notMem h
      obtain ⟨hlow, hhigh, hrange⟩ := lead_eq_opens hlead
      have hlow₂' : 0x80 ≤ b₂.toNat := Nat.le_trans hlow hlow₂
      have hhigh₂' : b₂.toNat ≤ 0xBF := Nat.le_trans hhigh₂ hhigh
      obtain ⟨-, hge, hlt⟩ | ⟨hmissing, hge, hlt, hfirst, hsurrogate⟩ |
        ⟨hmissing, hge, hlt, hfirst, hlast⟩ := hrange
      · obtain ⟨c, hc⟩ := exists_utf8EncodeChar_two hge hlt hlow₂' hhigh₂'
        exact ⟨c, rest, by rw [hc]; rfl⟩
      · obtain ⟨b₃, rest, rfl, hlow₃, hhigh₃, -⟩ := continuing_of_none_notMem (hmore (by omega))
        obtain ⟨c, hc⟩ := exists_utf8EncodeChar_three hge hlt hlow₂' hhigh₂'
          (fun heq => Nat.le_trans (hfirst heq) hlow₂)
          (fun heq => Nat.le_trans hhigh₂ (hsurrogate heq)) hlow₃ hhigh₃
        exact ⟨c, rest, by rw [hc]; rfl⟩
      · obtain ⟨b₃, rest, rfl, hlow₃, hhigh₃, hmore₃⟩ :=
          continuing_of_none_notMem (hmore (by omega))
        obtain ⟨b₄, rest, rfl, hlow₄, hhigh₄, -⟩ :=
          continuing_of_none_notMem (hmore₃ (by dsimp only; omega))
        obtain ⟨c, hc⟩ := exists_utf8EncodeChar_four hge hlt hlow₂' hhigh₂'
          (fun heq => Nat.le_trans (hfirst heq) hlow₂)
          (fun heq => Nat.le_trans hhigh₂ (hlast heq)) hlow₃ hhigh₃ hlow₄ hhigh₄
        exact ⟨c, rest, by rw [hc]; rfl⟩

/-! Texts. -/

theorem pieces_encode (s : String) : pieces (encode s) = s.toList.map some := by
  unfold encode
  induction s.toList with
  | nil => simp [pieces]
  | cons c cs ih => rw [List.flatMap_cons, pieces_utf8EncodeChar, ih, List.map_cons]

theorem decode?_encode (s : String) : decode? (encode s) = some s := by
  have hall (cs : List Char) : (cs.map some).mapM id = some cs := by
    induction cs with
    | nil => rfl
    | cons c cs ih => simp [ih]
  rw [decode?, pieces_encode, hall, Option.map_some, String.ofList_toList]

/-- A run is the encoding of the text it spells, so no text is spelled by two of them. -/
theorem encode_of_decode? {bs : Bytes} {s : String} (h : decode? bs = some s) : encode s = bs := by
  obtain ⟨cs, hcs, rfl⟩ := Option.map_eq_some_iff.1 h
  rw [encode, String.toList_ofList]
  clear h
  -- on the length of the run, which gets shorter by the encoding of its first character
  induction hlen : bs.length using Nat.strongRecOn generalizing bs cs with
  | ind n ih =>
      cases bs with
      | nil =>
          obtain rfl : [] = cs := by simpa [pieces] using hcs
          rfl
      | cons b rest =>
          have hwell : none ∉ pieces (b :: rest) := fun hnone => by
            obtain ⟨c, -, hc⟩ := exists_mem_of_mapM hcs hnone
            cases hc
          obtain ⟨c, rest', hsplit⟩ := exists_char_of_none_notMem hwell
          rw [hsplit, pieces_utf8EncodeChar, List.mapM_cons] at hcs
          obtain ⟨first, hfirst, hcs⟩ := Option.bind_eq_some_iff.1 hcs
          obtain rfl : c = first := Option.some.inj hfirst
          obtain ⟨cs', hcs', hcons⟩ := Option.bind_eq_some_iff.1 hcs
          obtain rfl : c :: cs' = cs := Option.some.inj hcons
          have hshort : rest'.length < n := by
            have hlength := congrArg List.length hsplit
            rw [List.length_append, String.length_utf8EncodeChar] at hlength
            have hpos := c.utf8Size_pos
            omega
          rw [List.flatMap_cons, ih rest'.length hshort cs' hcs' rfl, hsplit]

theorem decode?_eq_some_iff {bs : Bytes} {s : String} : decode? bs = some s ↔ bs = encode s :=
  ⟨fun h => (encode_of_decode? h).symm, fun h => h ▸ decode?_encode s⟩

theorem encode_inj {s t : String} : encode s = encode t ↔ s = t := by
  refine ⟨fun h => ?_, congrArg encode⟩
  have := decode?_encode s
  rw [h, decode?_encode] at this
  exact (Option.some.inj this).symm

end Prelaunch.Utf8
