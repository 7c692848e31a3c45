import Prelaunch.Proofs.Success
import Prelaunch.Text.Utf8

/-!
Bytes of written texts. A byte below 0x80 stands for the character of that number and occurs in no
other, so a text has it exactly where it has the character, and it is read back as that character.
-/

namespace Prelaunch.Utf8

theorem mem_utf8EncodeChar {c : Char} {b : UInt8} (hb : b.toNat < 0x80) :
    b ∈ String.utf8EncodeChar c ↔ c.toNat = b.toNat := by
  have hnot (n : Nat) (hn : 0x80 ≤ n % 256) : b ≠ UInt8.ofNat n := by
    rintro rfl
    simp at hb
    omega
  have hv : c.toNat = c.val.toNat := rfl
  fun_cases String.utf8EncodeChar c with
  | case1 v hsmall =>
      rw [List.mem_singleton, ← UInt8.toNat_inj, UInt8.toNat_ofNat']
      omega
  | case2 v hlarge hsmall =>
      have h₁ := hnot (v / 64 % 0x20 + 0xC0) (by omega)
      have h₂ := hnot (v % 0x40 + 0x80) (by omega)
      simp only [List.mem_cons, h₁, h₂, List.not_mem_nil, or_self, false_iff]
      omega
  | case3 v hlarge _ hsmall =>
      have h₁ := hnot (v / 4096 % 0x10 + 0xE0) (by omega)
      have h₂ := hnot (v / 64 % 0x40 + 0x80) (by omega)
      have h₃ := hnot (v % 0x40 + 0x80) (by omega)
      simp only [List.mem_cons, h₁, h₂, h₃, List.not_mem_nil, or_self, false_iff]
      omega
  | case4 v hlarge _ _ =>
      have h₁ := hnot (v / 262144 % 0x08 + 0xF0) (by omega)
      have h₂ := hnot (v / 4096 % 0x40 + 0x80) (by omega)
      have h₃ := hnot (v / 64 % 0x40 + 0x80) (by omega)
      have h₄ := hnot (v % 0x40 + 0x80) (by omega)
      simp only [List.mem_cons, h₁, h₂, h₃, h₄, List.not_mem_nil, or_self, false_iff]
      omega

theorem mem_encode {s : String} {b : UInt8} (hb : b.toNat < 0x80) :
    b ∈ encode s ↔ ∃ c ∈ s.toList, c.toNat = b.toNat := by
  simp only [encode, List.mem_flatMap, mem_utf8EncodeChar hb]

theorem encode_append (s t : String) : encode (s ++ t) = encode s ++ encode t := by
  simp [encode]

theorem length_encode_of_ascii {s : String} (h : ∀ c ∈ s.toList, c.toNat < 0x80) :
    (encode s).length = s.toList.length := by
  unfold encode
  generalize s.toList = cs at h
  induction cs with
  | nil => rfl
  | cons c cs ih =>
      obtain ⟨hc, hcs⟩ := List.forall_mem_cons.1 h
      have hone : c.utf8Size = 1 := by
        rw [Char.utf8Size_eq_one_iff]
        exact UInt32.le_iff_toNat_le.2 (by change c.toNat ≤ 127; omega)
      rw [List.flatMap_cons, List.length_append, String.length_utf8EncodeChar, hone, ih hcs,
        List.length_cons, Nat.add_comm]

theorem low_of_lead_opens {b : UInt8} {o : Open} (h : lead b = .opens o) : 0x80 ≤ o.low := by
  unfold lead at h
  grind

/-- No character begun before the byte takes it for one of its own. -/
theorem mem_pieces_and_continuing {b : UInt8} (hb : b.toNat < 0x80) {bs : Bytes} (h : b ∈ bs) :
    some (Char.ofNat b.toNat) ∈ pieces bs ∧
      ∀ o : Open, 0x80 ≤ o.low → some (Char.ofNat b.toNat) ∈ continuing o bs := by
  have hlt : b < 0x80 := UInt8.lt_iff_toNat_lt.2 hb
  have hlead : lead b = .whole (Char.ofNat b.toNat) := by simp [lead, hlt]
  induction bs with
  | nil => cases h
  | cons a rest ih =>
      rcases List.mem_cons.1 h with rfl | hrest
      · have hnot (o : Open) (ho : 0x80 ≤ o.low) : ¬o.low ≤ b := by grind
        refine ⟨by simp [pieces, hlead], fun o ho => ?_⟩
        simp [continuing, hlead, hnot o ho]
      · obtain ⟨hpieces, hcontinuing⟩ := ih hrest
        constructor
        · rw [pieces]
          cases ha : lead a with
          | whole c => exact List.mem_cons_of_mem _ hpieces
          | opens o => exact hcontinuing o (low_of_lead_opens ha)
          | stray => exact List.mem_cons_of_mem _ hpieces
        · intro o ho
          rw [continuing]
          split
          · dsimp only
            split
            · exact List.mem_cons_of_mem _ hpieces
            · exact hcontinuing _ (UInt8.le_refl 0x80)
          · cases ha : lead a with
            | whole c => simp [hpieces]
            | opens o' => exact List.mem_cons_of_mem _ (hcontinuing o' (low_of_lead_opens ha))
            | stray => simp [hpieces]

theorem mem_of_decode?_eq_some {b : UInt8} {bs : Bytes} {s : String} (hb : b.toNat < 0x80)
    (h : b ∈ bs) (hs : decode? bs = some s) : Char.ofNat b.toNat ∈ s.toList := by
  obtain ⟨cs, hcs, rfl⟩ := Option.map_eq_some_iff.1 hs
  obtain ⟨c, hmem, hc⟩ := exists_mem_of_mapM hcs (mem_pieces_and_continuing hb h).1
  obtain rfl : Char.ofNat b.toNat = c := Option.some.inj hc
  simpa using hmem

end Prelaunch.Utf8
