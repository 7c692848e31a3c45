import Prelaunch.Proofs.Utf8
import Prelaunch.Url.Host

/-!
Blanks and control characters in domain names. Nothing on the way from the text of a host to a name
in ASCII takes such a character out: percent-decoding takes digits only, mapping keeps it, it is
composed with no other, and a label is spelled with every basic character that it has. So it is
still there when the name is checked, and no text with one is a domain name.
-/

namespace Prelaunch.Url

theorem Percent.mem_decode {b : UInt8} {bs : Bytes} (hb : b.toNat ≤ 0x20) (h : b ∈ bs) :
    b ∈ decode bs := by
  have hle : b ≤ 0x20 := UInt8.le_iff_toNat_le.2 hb
  have hnone : Text.hexValue? b = none := by
    unfold Text.hexValue?
    grind
  fun_induction decode bs with
  | case1 => cases h
  | case2 a c rest high low hlow hhigh ih =>
      have hpercent : b ≠ 0x25 := by rintro rfl; contradiction
      have hnea : b ≠ a := by rintro rfl; exact absurd (hnone.symm.trans hhigh) nofun
      have hnec : b ≠ c := by rintro rfl; exact absurd (hnone.symm.trans hlow) nofun
      simp only [List.mem_cons, hpercent, hnea, hnec, false_or] at h
      exact List.mem_cons_of_mem _ (ih h)
  | case3 a c rest _ ih =>
      rcases List.mem_cons.1 h with rfl | h
      · exact List.mem_cons_self
      · exact List.mem_cons_of_mem _ (ih h)
  | case4 a rest _ ih =>
      rcases List.mem_cons.1 h with rfl | h
      · exact List.mem_cons_self
      · exact List.mem_cons_of_mem _ (ih h)

theorem Punycode.mem_encode {c : Char} {text : List Char} (hc : isBasic c = true) (h : c ∈ text) :
    c ∈ encode text := by
  have hbasic : c ∈ text.filter isBasic := List.mem_filter.2 ⟨h, hc⟩
  have hsome : (text.filter isBasic).isEmpty = false := by
    rw [List.isEmpty_eq_false_iff_exists_mem]
    exact ⟨c, hbasic⟩
  simp [encode, hsome, hbasic]

namespace Idna

variable {c d e : Char} {cs name : List Char}

/-! Mapping. -/

theorem isKept_of_le (hc : c.toNat ≤ 0x20) : isKept c = true := by
  have hall : ∀ n < 0x21, Text.CodeSet.isInside keptSet.flips n = true := by decide +kernel
  exact hall c.toNat (by omega)

theorem mem_mapText {mapped : List Char} (hc : c.toNat ≤ 0x20) (h : c ∈ cs)
    (hmapped : mapText cs = some mapped) : c ∈ mapped := by
  obtain ⟨parts, hparts, rfl⟩ := Option.map_eq_some_iff.1 hmapped
  obtain ⟨part, hmem, hpart⟩ := exists_mem_of_mapM hparts h
  have hself : mapChar c = some [c] := by simp [mapChar, isKept_of_le hc]
  obtain rfl : part = [c] := Option.some.inj (hpart.symm.trans hself)
  exact List.mem_flatten.2 ⟨[c], hmem, List.mem_singleton_self c⟩

/-! Composition. -/

theorem lt_of_mem_composedPairs :
    ∀ p ∈ composedPairs, 0x20 < p.1 ∧ 0x20 < p.2.1 ∧ 0x20 < p.2.2 := by
  decide +kernel

theorem takeApart_of_le (depth : Nat) (hc : c.toNat ≤ 0x20) : takeApart depth c = [c] := by
  cases depth with
  | zero => rfl
  | succ depth =>
      have hbelow : c.toNat < syllableBase := by
        unfold syllableBase
        omega
      have hsyllable : syllableParts? c = none := by
        unfold syllableParts?
        simp only [hbelow, decide_true, Bool.true_or, if_true]
      have hparts : parts? c = none := by
        rw [parts?, Option.map_eq_none_iff, List.lookup_eq_none_iff]
        intro p hp
        have hlt := (lt_of_mem_composedPairs p hp).1
        simp
        omega
      simp [takeApart, hsyllable, hparts]

/-- A character that some other one is composed with comes after the blanks. -/
theorem lt_of_joins (h : (syllable? c d).or (composed? c d) = some e) :
    0x20 < c.toNat ∧ 0x20 < d.toNat := by
  rcases Option.or_eq_some_iff.1 h with hsyllable | ⟨-, hcomposed⟩
  · simp only [syllable?, leadBase, vowelBase, tailBase, syllableBase] at hsyllable
    grind
  · obtain ⟨p, hp, -⟩ := Option.map_eq_some_iff.1 hcomposed
    obtain ⟨hmem, hparts⟩ := And.intro (List.mem_of_find?_eq_some hp) (List.find?_some hp)
    have hlt := lt_of_mem_composedPairs p hmem
    obtain ⟨hleft, hright⟩ : p.2.1 = c.toNat ∧ p.2.2 = d.toNat := by simpa using hparts
    omega

theorem mem_sink : d ∈ sink c cs ↔ d = c ∨ d ∈ cs := by
  induction cs with
  | nil => simp [sink]
  | cons e rest ih =>
      rw [sink]
      split
      · rw [List.mem_cons, ih, List.mem_cons]
        exact or_left_comm
      · exact List.mem_cons

theorem mem_orderMarks : d ∈ orderMarks cs ↔ d ∈ cs := by
  induction cs with
  | nil => rfl
  | cons c rest ih =>
      have hsink : d ∈ orderMarks (c :: rest) ↔ d = c ∨ d ∈ orderMarks rest := mem_sink
      rw [hsink, ih, List.mem_cons]

theorem mem_composeAfter {base : Char} {between rest : List Char} (hc : c.toNat ≤ 0x20)
    (h : c = base ∨ c ∈ between ∨ c ∈ rest) : c ∈ composeAfter base between rest := by
  fun_induction composeAfter base between rest with
  | case1 base between => simpa using h
  | case2 base between d rest isNear e hjoin ih =>
      -- what is composed is neither of the two, so the character is elsewhere
      have hjoins : (syllable? base d).or (composed? base d) = some e := by grind
      obtain ⟨hbase, hd⟩ := lt_of_joins hjoins
      have hnebase : c ≠ base := by rintro rfl; omega
      have hned : c ≠ d := by rintro rfl; omega
      refine ih (.inr ?_)
      simpa [hnebase, hned] using h
  | case3 base between d rest isNear _ _ ih =>
      rw [List.mem_append, List.mem_cons, List.mem_reverse]
      rcases h with hbase | hbetween | hrest
      · exact .inl (.inl hbase)
      · exact .inl (.inr hbetween)
      · rcases List.mem_cons.1 hrest with hd | hrest
        · exact .inr (ih (.inl hd))
        · exact .inr (ih (.inr (.inr hrest)))
  | case4 base between d rest isNear _ _ ih =>
      refine ih ?_
      simpa [or_assoc, or_left_comm] using h

theorem mem_composeMarks (hc : c.toNat ≤ 0x20) (h : c ∈ cs) : c ∈ composeMarks cs := by
  induction cs with
  | nil => cases h
  | cons d rest ih =>
      rw [composeMarks]
      split
      · refine mem_composeAfter hc ?_
        rcases List.mem_cons.1 h with rfl | h
        · exact .inl rfl
        · exact .inr (.inr h)
      · rcases List.mem_cons.1 h with rfl | h
        · exact List.mem_cons_self
        · exact List.mem_cons_of_mem d (ih h)

theorem mem_compose (hc : c.toNat ≤ 0x20) (h : c ∈ cs) : c ∈ compose cs := by
  refine mem_composeMarks hc (mem_orderMarks.2 (List.mem_flatMap.2 ⟨c, h, ?_⟩))
  rw [takeApart_of_le 4 hc]
  exact List.mem_singleton_self c

/-! Labels. -/

theorem mem_spelled {label : List Char} {l : Label} (hc : c.toNat ≤ 0x20) (h : c ∈ label)
    (hl : readLabel label = some l) : c ∈ l.spelled := by
  unfold readLabel at hl
  split at hl
  · unfold readSpelled at hl
    obtain ⟨letters, -, hl⟩ := Option.bind_eq_some_iff.1 hl
    obtain ⟨-, -, hl⟩ := Option.bind_eq_some_iff.1 hl
    obtain rfl := Option.some.inj hl
    exact h
  · obtain rfl := Option.some.inj hl
    dsimp only
    split
    · exact h
    · have hbasic : Punycode.isBasic c = true := by
        simp [Punycode.isBasic]
        omega
      exact List.mem_append_right _ (Punycode.mem_encode hbasic h)

theorem mem_intercalate {sep : Char} {labels : List (List Char)} (hc : c ≠ sep) :
    c ∈ List.intercalate [sep] labels ↔ ∃ label ∈ labels, c ∈ label := by
  induction labels with
  | nil => simp
  | cons label rest ih =>
      cases rest with
      | nil => simp [List.intercalate_singleton]
      | cons next rest =>
          rw [List.intercalate_cons_cons, List.mem_append, List.mem_append, ih]
          simp [hc]

theorem mem_toAscii (hc : c.toNat ≤ 0x20) (h : c ∈ cs) (hname : toAscii cs = some name) :
    c ∈ name := by
  have hdot : c ≠ '.' := by rintro rfl; contradiction
  unfold toAscii at hname
  obtain ⟨mapped, hmapped, hname⟩ := Option.bind_eq_some_iff.1 hname
  obtain ⟨labels, hlabels, hname⟩ := Option.bind_eq_some_iff.1 hname
  obtain ⟨-, -, hname⟩ := Option.bind_eq_some_iff.1 hname
  obtain ⟨-, -, hname⟩ := Option.bind_eq_some_iff.1 hname
  obtain rfl := Option.some.inj hname
  -- the composed name has the character in one of its labels
  have hcomposed : c ∈ compose mapped := mem_compose hc (mem_mapText hc h hmapped)
  have hsplit : List.intercalate ['.'] ((compose mapped).splitOn '.') = compose mapped :=
    List.intercalate_splitOn '.'
  rw [← hsplit, mem_intercalate hdot] at hcomposed
  obtain ⟨label, hlabel, hmem⟩ := hcomposed
  obtain ⟨l, hl, hread⟩ := exists_mem_of_mapM hlabels hlabel
  rw [mem_intercalate hdot]
  exact ⟨l.spelled, List.mem_map_of_mem hl, mem_spelled hc hmem hread⟩

end Idna

namespace Host

variable {c : Char} {cs name : List Char}

theorem mem_decoded {text : String} (hc : c.toNat ≤ 0x20) (h : c ∈ cs)
    (htext : Utf8.decode? (Percent.decode (Utf8.encode (String.ofList cs))) = some text) :
    c ∈ text.toList := by
  have hb : (UInt8.ofNat c.toNat).toNat = c.toNat := by
    rw [UInt8.toNat_ofNat']
    omega
  have hbytes : UInt8.ofNat c.toNat ∈ Utf8.encode (String.ofList cs) :=
    (Utf8.mem_encode (by omega)).2 ⟨c, by simpa using h, hb.symm⟩
  have hdecoded := Percent.mem_decode (by omega) hbytes
  simpa [hb] using Utf8.mem_of_decode?_eq_some (by omega) hdecoded htext

theorem isForbiddenInDomain_of_le (hc : c.toNat ≤ 0x20) : isForbiddenInDomain c = true := by
  have hall : ∀ n < 0x21, isForbiddenInDomain (Char.ofNat n) = true := by decide
  simpa using hall c.toNat (by omega)

theorem lt_of_domainName_eq_ok (h : domainName cs = .ok name) (hc : c ∈ cs) : 0x20 < c.toNat := by
  refine Nat.lt_of_not_le fun hlow => ?_
  unfold domainName at h
  split at h
  · cases h
  · rename_i ascii hread
    obtain ⟨text, htext, hascii⟩ := Option.bind_eq_some_iff.1 hread
    have hmem : c ∈ ascii := Idna.mem_toAscii hlow (mem_decoded hlow hc htext) hascii
    have hany : ascii.any isForbiddenInDomain = true :=
      List.any_eq_true.2 ⟨c, hmem, isForbiddenInDomain_of_le hlow⟩
    rw [if_pos hany] at h
    cases h

end Host

end Prelaunch.Url
