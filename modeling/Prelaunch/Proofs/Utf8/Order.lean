import Prelaunch.Proofs.Utf8

/-!
The order of written texts. A greater character is written by greater bytes whatever follows it, so
texts are in the order of their bytes.
-/

namespace Prelaunch.Utf8

theorem utf8EncodeChar_append_lt {c d : Char} (h : c < d) (x y : Bytes) :
    String.utf8EncodeChar c ++ x < String.utf8EncodeChar d ++ y := by
  have hlt : c.val.toNat < d.val.toNat := h
  have hc : c.val.toNat < 0xD800 ∨ 0xDFFF < c.val.toNat ∧ c.val.toNat < 0x110000 := c.valid
  have hd : d.val.toNat < 0xD800 ∨ 0xDFFF < d.val.toNat ∧ d.val.toNat < 0x110000 := d.valid
  -- the bytes are the digits of the number to the base 64, behind marks that grow with their count
  fun_cases String.utf8EncodeChar c <;> fun_cases String.utf8EncodeChar d <;>
    simp (disch := omega) only [List.cons_append, List.nil_append, List.cons_lt_cons_iff,
      UInt8.lt_iff_toNat_lt, ← UInt8.toNat_inj, UInt8.toNat_ofNat', Nat.mod_eq_of_lt] <;>
    omega

theorem flatMap_utf8EncodeChar_lt {cs ds : List Char} (h : cs < ds) :
    cs.flatMap String.utf8EncodeChar < ds.flatMap String.utf8EncodeChar := by
  induction cs generalizing ds with
  | nil =>
      cases ds with
      | nil => exact absurd h (List.lt_irrefl [])
      | cons d ds =>
          obtain ⟨b, rest, hd⟩ := List.exists_cons_of_ne_nil (String.utf8EncodeChar_ne_nil (c := d))
          rw [List.flatMap_nil, List.flatMap_cons, hd]
          exact List.nil_lt_cons b _
  | cons c cs ih =>
      cases ds with
      | nil => exact absurd h (List.not_lt_nil _)
      | cons d ds =>
          rw [List.flatMap_cons, List.flatMap_cons]
          obtain hcd | ⟨rfl, hrest⟩ := List.cons_lt_cons_iff.1 h
          · exact utf8EncodeChar_append_lt hcd _ _
          · exact List.append_left_lt (ih hrest)

theorem encode_lt_encode {s t : String} (h : s < t) : encode s < encode t :=
  flatMap_utf8EncodeChar_lt (String.lt_iff.1 h)

end Prelaunch.Utf8
