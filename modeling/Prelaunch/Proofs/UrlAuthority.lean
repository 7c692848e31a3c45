import Mathlib.Data.List.TakeWhile
import Prelaunch.Proofs.DomainName
import Prelaunch.Url.Parser

/-!
What the authority of a web URL decides. The host and the port of a parsed URL are read from the
text before the first character that ends the authority, and from nothing after it. A text that
ends in a blank is the authority of no URL.
-/

namespace Prelaunch.Url

variable {scheme : String} {c : Char} {a cs rest tail : List Char} {u v : Url}

/-- The same scheme, host and port. -/
def SharesOrigin (u v : Url) : Prop := u.scheme = v.scheme ∧ u.host = v.host ∧ u.port = v.port

namespace SharesOrigin

theorem trans {w : Url} (huv : u.SharesOrigin v) (hvw : v.SharesOrigin w) : u.SharesOrigin w :=
  ⟨huv.1.trans hvw.1, huv.2.1.trans hvw.2.1, huv.2.2.trans hvw.2.2⟩

theorem symm (h : u.SharesOrigin v) : v.SharesOrigin u := ⟨h.1.symm, h.2.1.symm, h.2.2.symm⟩

theorem hostText?_eq (h : u.SharesOrigin v) : u.hostText? = v.hostText? := by
  rw [hostText?, h.2.1, hostText?]

end SharesOrigin

/-- The text of the authority that comes first in `cs`. -/
def authorityOf (cs : List Char) : List Char := cs.takeWhile (!endsAuthority true ·)

def afterAuthority (cs : List Char) : List Char := cs.dropWhile (!endsAuthority true ·)

/-- No character of the text ends the authority. -/
def Unended (a : List Char) : Prop := ∀ c ∈ a, endsAuthority true c = false

/-- The text begins where an authority has ended. -/
def IsPastAuthority (tail : List Char) : Prop := tail.head?.all (endsAuthority true) = true

theorem unended_authorityOf (cs : List Char) : Unended (authorityOf cs) := by
  intro c hc
  have hall := List.all_takeWhile (p := (!endsAuthority true ·)) (l := cs)
  simpa using List.all_eq_true.1 hall c hc

theorem IsPastAuthority.eq_nil_or_cons (htail : IsPastAuthority tail) :
    tail = [] ∨ ∃ c rest, tail = c :: rest ∧ endsAuthority true c = true := by
  cases tail with
  | nil => exact .inl rfl
  | cons c rest => exact .inr ⟨c, rest, rfl, by simpa [IsPastAuthority] using htail⟩

theorem endsAuthority_iff :
    endsAuthority true c = true ↔ c = '/' ∨ c = '\\' ∨ c = '?' ∨ c = '#' := by
  simp [endsAuthority, isSlash, endsPath, or_assoc]

theorem isPastAuthority_afterAuthority (cs : List Char) : IsPastAuthority (afterAuthority cs) := by
  unfold IsPastAuthority afterAuthority
  cases htail : cs.dropWhile (!endsAuthority true ·) with
  | nil => rfl
  | cons c rest =>
      have hhead := List.head?_dropWhile_not (!endsAuthority true ·) cs
      simpa [htail] using hhead

theorem authorityOf_append_afterAuthority (cs : List Char) :
    authorityOf cs ++ afterAuthority cs = cs := List.takeWhile_append_dropWhile

/-! The parts of an authority. -/

def afterUserInfo (a : List Char) : List Char := (a.reverse.takeWhile (· != '@')).reverse

def hostPart (a : List Char) : List Char :=
  (afterUserInfo a).take (hostLength true false (afterUserInfo a))

/-- The port with the colon before it, or nothing. -/
def portPart (a : List Char) : List Char :=
  (afterUserInfo a).drop (hostLength true false (afterUserInfo a))

def readPort (scheme : String) : List Char → Except UrlError (Option Nat)
  | ':' :: digits => (parsePort scheme digits).map (·.1)
  | _ => .ok none

theorem afterUserInfo_isSuffix (a : List Char) : afterUserInfo a <:+ a := by
  rw [← List.reverse_prefix, afterUserInfo, List.reverse_reverse]
  exact List.takeWhile_prefix _

theorem Unended.afterUserInfo (ha : Unended a) : Unended (afterUserInfo a) :=
  fun c hc => ha c ((afterUserInfo_isSuffix a).subset hc)

theorem splitUserInfo_snd (cs : List Char) :
    (splitUserInfo true cs).2 = afterUserInfo (authorityOf cs) ++ afterAuthority cs := by
  obtain ⟨before, hbefore⟩ := afterUserInfo_isSuffix (authorityOf cs)
  have hcs : cs = before ++ (afterUserInfo (authorityOf cs) ++ afterAuthority cs) := by
    rw [← List.append_assoc, hbefore, authorityOf_append_afterAuthority]
  have hlength : (authorityOf cs).length - (afterUserInfo (authorityOf cs)).length =
      before.length := by
    rw [← congrArg List.length hbefore, List.length_append, Nat.add_sub_cancel]
  change (if (afterUserInfo (authorityOf cs)).length == (authorityOf cs).length then (none, cs) else
    (some _, cs.drop ((authorityOf cs).length - (afterUserInfo (authorityOf cs)).length))).2 = _
  split
  · rename_i hsame
    have hnone : before = [] := by
      rw [← List.length_eq_zero_iff, ← hlength, eq_of_beq hsame, Nat.sub_self]
    simpa [hnone] using hcs
  · rw [hlength]
    calc cs.drop before.length
      _ = (before ++ (afterUserInfo (authorityOf cs) ++ afterAuthority cs)).drop before.length :=
          congrArg (List.drop before.length) hcs
      _ = _ := List.drop_left

theorem hostLength_append (htail : IsPastAuthority tail) (bracket : Bool) (cs : List Char) :
    hostLength true bracket (cs ++ tail) = hostLength true bracket cs := by
  induction cs generalizing bracket with
  | nil =>
      obtain rfl | ⟨c, rest, rfl, hend⟩ := htail.eq_nil_or_cons
      · rfl
      · simp [hostLength, hend]
  | cons c cs ih => simp only [List.cons_append, hostLength, ih]

theorem hostLength_le (bracket : Bool) (cs : List Char) :
    hostLength true bracket cs ≤ cs.length := by
  induction cs generalizing bracket with
  | nil => exact Nat.le_refl 0
  | cons c cs ih =>
      rw [hostLength]
      split
      · exact Nat.zero_le _
      · rw [List.length_cons, Nat.add_comm]
        exact Nat.succ_le_succ (ih _)

theorem drop_hostLength (ha : Unended a) (bracket : Bool) :
    a.drop (hostLength true bracket a) = [] ∨
      ∃ digits, a.drop (hostLength true bracket a) = ':' :: digits := by
  induction a generalizing bracket with
  | nil => exact .inl rfl
  | cons c a ih =>
      rw [hostLength]
      split
      · rename_i hstop
        have hc := ha c List.mem_cons_self
        right
        refine ⟨a, ?_⟩
        simp [hc] at hstop
        simp [hstop]
      · rw [Nat.add_comm, List.drop_succ_cons]
        exact ih (fun d hd => ha d (List.mem_cons_of_mem c hd)) _

theorem isPortEnd_eq : isPortEnd c = endsAuthority true c := by
  simp [isPortEnd, endsAuthority, isSlash]

theorem not_isDigit_of_endsAuthority (hc : endsAuthority true c = true) : c.isDigit = false := by
  rcases endsAuthority_iff.1 hc with rfl | rfl | rfl | rfl <;> decide

theorem digits_append (htail : IsPastAuthority tail) (cs : List Char) :
    (cs ++ tail).takeWhile Char.isDigit = cs.takeWhile Char.isDigit ∧
      (cs ++ tail).dropWhile Char.isDigit = cs.dropWhile Char.isDigit ++ tail := by
  induction cs with
  | nil =>
      obtain rfl | ⟨c, rest, rfl, hend⟩ := htail.eq_nil_or_cons
      · exact ⟨rfl, rfl⟩
      · simp [not_isDigit_of_endsAuthority hend]
  | cons c cs ih => cases hc : c.isDigit <;> simp [hc, ih]

/-- The digits of a port are read up to the end of the authority. -/
theorem parsePort_append (htail : IsPastAuthority tail) (cs : List Char) :
    (parsePort scheme (cs ++ tail)).map (·.1) = (parsePort scheme cs).map (·.1) := by
  obtain ⟨htake, hdrop⟩ := digits_append htail cs
  have hend : (cs.dropWhile Char.isDigit ++ tail).head?.all isPortEnd =
      (cs.dropWhile Char.isDigit).head?.all isPortEnd := by
    cases cs.dropWhile Char.isDigit with
    | nil =>
        obtain rfl | ⟨c, rest, rfl, hend⟩ := htail.eq_nil_or_cons
        · rfl
        · simp [isPortEnd_eq, hend]
    | cons c rest => rfl
  unfold parsePort
  simp only [htake, hdrop, hend]
  split
  · rfl
  · split <;> rfl

/-- The port, and what follows it. -/
def splitPort (scheme : String) : List Char → Except UrlError (Option Nat × List Char)
  | ':' :: digits => parsePort scheme digits
  | cs => .ok (none, cs)

theorem readPort_of_splitPort {port : Option Nat} {left : List Char}
    (h : splitPort scheme cs = .ok (port, left)) : readPort scheme cs = .ok port := by
  unfold splitPort at h
  split at h
  · rw [readPort, h]
    rfl
  · rename_i hcolon
    obtain ⟨rfl, -⟩ := Prod.mk.inj (Except.ok.inj h)
    unfold readPort
    split
    · rename_i digits
      exact absurd rfl (hcolon digits)
    · rfl

/-- What a parse of an authority has read, and what is left behind the port. -/
structure HasRead (scheme : String) (cs left : List Char) (u : Url) : Prop where
  scheme_eq : u.scheme = scheme
  user : let user := parseUserInfo ((splitUserInfo (isSpecialScheme scheme) cs).1.getD [])
    u.username = String.ofList user.username ∧ u.password = String.ofList user.password
  host : let rest := (splitUserInfo (isSpecialScheme scheme) cs).2
    (parseHost scheme (rest.take (hostLength (isSpecialScheme scheme) false rest))).map some =
      .ok u.host
  port : let rest := (splitUserInfo (isSpecialScheme scheme) cs).2
    splitPort scheme (rest.drop (hostLength (isSpecialScheme scheme) false rest)) =
      .ok (u.port, left)
  path : u.path = parsePath scheme left
  tail : (u.query, u.fragment) =
    parseTail (isSpecialScheme scheme) (left.dropWhile (!endsPath ·))

theorem exists_hasRead (h : parseAuthority scheme cs = .ok u) : ∃ left, HasRead scheme cs left u := by
  unfold parseAuthority at h
  simp only [bind, Except.bind, throw, throwThe, MonadExceptOf.throw, pure, Except.pure] at h
  split at h
  · cases h
  · split at h
    · cases h
    · rename_i host hhost
      split at h
      · cases h
      · split at h
        · rename_i digits hcolon
          split at h
          · cases h
          · rename_i port hport
            split at h
            · cases h
            · obtain rfl := Except.ok.inj h
              refine ⟨port.2, rfl, ⟨rfl, rfl⟩, ?_, ?_, rfl, rfl⟩
              · dsimp only
                rw [hhost]
                rfl
              · dsimp only
                rw [hcolon, splitPort, hport]
        · rename_i hcolon
          split at h
          · cases h
          · obtain rfl := Except.ok.inj h
            refine ⟨_, rfl, ⟨rfl, rfl⟩, ?_, ?_, rfl, rfl⟩
            · dsimp only
              rw [hhost]
              rfl
            · dsimp only
              unfold splitPort
              split
              · rename_i digits hdigits
                exact absurd hdigits (hcolon digits)
              · rfl

/-- The origin that a parse of an authority has read. -/
theorem parseAuthority_eq_ok (h : parseAuthority scheme cs = .ok u) :
    let special := isSpecialScheme scheme
    let rest := (splitUserInfo special cs).2
    u.scheme = scheme ∧
      (parseHost scheme (rest.take (hostLength special false rest))).map some = .ok u.host ∧
      readPort scheme (rest.drop (hostLength special false rest)) = .ok u.port := by
  obtain ⟨left, hread⟩ := exists_hasRead h
  exact ⟨hread.scheme_eq, hread.host, readPort_of_splitPort hread.port⟩

theorem readPort_append (ha : Unended a) (htail : IsPastAuthority tail) (bracket : Bool) :
    readPort scheme (a.drop (hostLength true bracket a) ++ tail) =
      readPort scheme (a.drop (hostLength true bracket a)) := by
  rcases drop_hostLength ha bracket with hnil | ⟨digits, hcolon⟩
  · rw [hnil]
    obtain rfl | ⟨c, rest, rfl, hend⟩ := htail.eq_nil_or_cons
    · rfl
    · have hne : c ≠ ':' := by rintro rfl; contradiction
      simp [readPort, hne]
  · rw [hcolon]
    exact parsePort_append htail digits

/-- The URL has the host and the port that the authority spells. -/
structure Spells (scheme : String) (a : List Char) (u : Url) : Prop where
  scheme_eq : u.scheme = scheme
  host : (parseHost scheme (hostPart a)).map some = .ok u.host
  port : readPort scheme (portPart a) = .ok u.port

theorem spells_of_parseAuthority (hspecial : isSpecialScheme scheme = true)
    (h : parseAuthority scheme cs = .ok u) : Spells scheme (authorityOf cs) u := by
  obtain ⟨hscheme, hhost, hport⟩ := parseAuthority_eq_ok h
  have htail := isPastAuthority_afterAuthority cs
  have hle := hostLength_le false (afterUserInfo (authorityOf cs))
  rw [hspecial, splitUserInfo_snd, hostLength_append htail] at hhost hport
  rw [List.take_append_of_le_length hle] at hhost
  rw [List.drop_append_of_le_length hle,
    readPort_append (unended_authorityOf cs).afterUserInfo htail] at hport
  exact ⟨hscheme, hhost, hport⟩

namespace Spells

/-- The authority leaves no choice of host and port. -/
theorem unique (hu : Spells scheme a u) (hv : Spells scheme a v) : u.SharesOrigin v :=
  ⟨hu.scheme_eq.trans hv.scheme_eq.symm, Except.ok.inj (hu.host.symm.trans hv.host),
    Except.ok.inj (hu.port.symm.trans hv.port)⟩

theorem parseSpecial_eq_ok (hspecial : isSpecialScheme scheme = true) (h : Spells scheme a u) :
    ∃ host, Host.parseSpecial (hostPart a) = .ok host := by
  have hhost := h.host
  unfold parseHost at hhost
  simp only [hspecial, Bool.not_true, Bool.false_eq_true, if_false] at hhost
  split at hhost
  · cases hhost
  · cases hparse : Host.parseSpecial (hostPart a) with
    | error e => rw [hparse] at hhost; cases hhost
    | ok host => exact ⟨host, rfl⟩

theorem ne_nil (hspecial : isSpecialScheme scheme = true) (h : Spells scheme a u) : a ≠ [] := by
  rintro rfl
  have hhost := h.host
  simp [parseHost, hspecial, hostPart, afterUserInfo, Except.map] at hhost

end Spells

/-! Blanks at the end. -/

theorem Host.lt_of_parseSpecial_eq_ok {host : Host} (h : parseSpecial cs = .ok host)
    (hlast : cs.getLast? = some c) : 0x20 < c.toNat := by
  unfold parseSpecial at h
  split at h
  · unfold bracketed at h
    split at h
    · cases h
    · rename_i hbracket
      obtain rfl : c = ']' := by simpa [hlast] using hbracket
      decide
  · obtain ⟨name, hname, -⟩ := bind_eq_ok.1 h
    exact lt_of_domainName_eq_ok hname (List.mem_of_getLast? hlast)

theorem isDigit_of_parsePort_eq_ok {port : Option Nat × List Char} (hcs : Unended cs)
    (h : parsePort scheme cs = .ok port) (hmem : c ∈ cs) : c.isDigit = true := by
  have hall : (cs.dropWhile Char.isDigit).head?.all isPortEnd = true := by
    unfold parsePort at h
    simp only [bind, Except.bind, throw, throwThe, MonadExceptOf.throw, pure, Except.pure] at h
    split at h
    · cases h
    · rename_i hguard
      simp only [Bool.or_eq_true, not_or, Bool.not_eq_true, Bool.not_eq_false'] at hguard
      exact hguard.2
  cases hdrop : cs.dropWhile Char.isDigit with
  | nil => exact List.dropWhile_eq_nil_iff.1 hdrop c hmem
  | cons d rest =>
      have hd : d ∈ cs := (List.dropWhile_sublist _).subset (hdrop ▸ List.mem_cons_self)
      have hend : endsAuthority true d = true := by simpa [hdrop, isPortEnd_eq] using hall
      exact absurd hend (by simp [hcs d hd])

theorem parsePort_left {port : Option Nat} {left : List Char}
    (h : parsePort scheme cs = .ok (port, left)) : left = cs.dropWhile Char.isDigit := by
  unfold parsePort at h
  simp only [bind, Except.bind, throw, throwThe, MonadExceptOf.throw, pure, Except.pure] at h
  split at h
  · cases h
  · split at h
    · exact (Prod.mk.inj (Except.ok.inj h)).2.symm
    · exact (Prod.mk.inj (Except.ok.inj h)).2.symm

/-- All of the authority has been read then. -/
theorem HasRead.left_eq {left : List Char} (hspecial : isSpecialScheme scheme = true)
    (h : HasRead scheme cs left u) : left = afterAuthority cs := by
  have htail := isPastAuthority_afterAuthority cs
  have hunended := (unended_authorityOf cs).afterUserInfo
  have hport := h.port
  dsimp only at hport
  rw [hspecial, splitUserInfo_snd, hostLength_append htail,
    List.drop_append_of_le_length (hostLength_le false _)] at hport
  rcases drop_hostLength hunended false with hnil | ⟨digits, hcolon⟩
  · rw [hnil, List.nil_append] at hport
    obtain hempty | ⟨c, rest, hcons, hend⟩ := htail.eq_nil_or_cons
    · rw [hempty] at hport ⊢
      exact (Prod.mk.inj (Except.ok.inj hport)).2.symm
    · have hne : c ≠ ':' := by rintro rfl; contradiction
      rw [hcons] at hport ⊢
      have hsplit : splitPort scheme (c :: rest) = .ok (none, c :: rest) := by simp [splitPort, hne]
      exact (Prod.mk.inj (Except.ok.inj (hport.symm.trans hsplit))).2
  · rw [hcolon, List.cons_append] at hport
    have hparse : parsePort scheme (digits ++ afterAuthority cs) = .ok (u.port, left) := hport
    have hdigits : Unended digits := by
      have hsuffix : ':' :: digits <:+ afterUserInfo (authorityOf cs) :=
        hcolon ▸ List.drop_suffix _ _
      exact fun d hd => hunended d (hsuffix.subset (List.mem_cons_of_mem _ hd))
    have hall : ∀ d ∈ digits, d.isDigit = true := by
      have hagree : (parsePort scheme (digits ++ afterAuthority cs)).map (·.1) =
          (parsePort scheme digits).map (·.1) := parsePort_append htail digits
      rw [hparse] at hagree
      cases hfirst : parsePort scheme digits with
      | error e => rw [hfirst] at hagree; cases hagree
      | ok port => exact fun d hd => isDigit_of_parsePort_eq_ok hdigits hfirst hd
    rw [parsePort_left hparse, (digits_append htail digits).2, List.dropWhile_eq_nil_iff.2 hall,
      List.nil_append]

/-- User names and passwords are read from the authority alone. -/
theorem splitUserInfo_fst_congr {cs' : List Char} (h : authorityOf cs = authorityOf cs') :
    (splitUserInfo true cs).1 = (splitUserInfo true cs').1 := by
  have hfst (cs : List Char) : (splitUserInfo true cs).1 =
      if (afterUserInfo (authorityOf cs)).length == (authorityOf cs).length then none
      else some ((authorityOf cs).take
        ((authorityOf cs).length - (afterUserInfo (authorityOf cs)).length - 1)) := by
    show (if (afterUserInfo (authorityOf cs)).length == (authorityOf cs).length then
      (none, cs) else (some _, _)).1 = _
    split <;> rfl
  rw [hfst, hfst, h]

theorem mem_of_isSuffix_of_getLast? {ending : List Char} (h : ending <:+ cs) (hne : ending ≠ [])
    (hlast : cs.getLast? = some c) : c ∈ ending := by
  obtain ⟨before, rfl⟩ := h
  obtain ⟨d, hd⟩ := List.getLast?_isSome.2 hne |> Option.isSome_iff_exists.1
  rw [List.getLast?_append, hd, Option.some_or, ← hd] at hlast
  exact List.mem_of_getLast? hlast

theorem Spells.lt_of_getLast? (hspecial : isSpecialScheme scheme = true) (ha : Unended a)
    (h : Spells scheme a u) (hlast : a.getLast? = some c) : 0x20 < c.toNat := by
  refine Nat.lt_of_not_le fun hblank => ?_
  have hat : c ≠ '@' := by rintro rfl; contradiction
  have hx : (afterUserInfo a).getLast? = some c := by
    obtain ⟨before, rfl⟩ := List.getLast?_eq_some_iff.1 hlast
    simp [afterUserInfo, hat]
  rcases drop_hostLength ha.afterUserInfo false with hnil | ⟨digits, hcolon⟩
  · have hwhole : hostPart a = afterUserInfo a :=
      List.take_of_length_le (List.drop_eq_nil_iff.1 hnil)
    obtain ⟨host, hhost⟩ := h.parseSpecial_eq_ok hspecial
    rw [hwhole] at hhost
    exact absurd (Host.lt_of_parseSpecial_eq_ok hhost hx) (by omega)
  · have hsuffix : ':' :: digits <:+ afterUserInfo a := hcolon ▸ List.drop_suffix _ _
    have hmem := mem_of_isSuffix_of_getLast? hsuffix (List.cons_ne_nil _ _) hx
    have hdigits : Unended digits := fun d hd =>
      ha.afterUserInfo d (hsuffix.subset (List.mem_cons_of_mem _ hd))
    have hport := h.port
    rw [portPart, hcolon, readPort] at hport
    cases hparse : parsePort scheme digits with
    | error e => rw [hparse] at hport; cases hport
    | ok port =>
        have hne : c ≠ ':' := by rintro rfl; contradiction
        have hdigit := isDigit_of_parsePort_eq_ok hdigits hparse (List.mem_of_ne_of_mem hne hmem)
        simp [Char.isDigit, UInt32.le_iff_toNat_le] at hdigit
        have hval : c.val.toNat = c.toNat := rfl
        omega

end Prelaunch.Url
