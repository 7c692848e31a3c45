import Prelaunch.Account
import Prelaunch.Proofs.Json.Grammar
import Mathlib.Data.List.Forall2
import Mathlib.Logic.Relation

/-!
What an answer is read for. Of the three objects that hold its fields, only the fields themselves
are looked at: neither the order of the members, nor the members of other names, nor the way in
which the document is laid out changes what the answer tells.
-/

namespace Prelaunch.Grant

variable {name : String} {names : List String} {members members' : List (Bytes × Json)}
  {v v' : Json} {vs : List Json} {inner : String → Json → Json → Prop}

/-! The fields of one object. -/

/-- The values of all members of some name. -/
def given (name : String) (members : List (Bytes × Json)) : List Json :=
  (members.filter fun m => Json.text? m.1 = some name).map (·.2)

/-- The value of a field, `null` if it is left out. -/
def value (name : String) (members : List (Bytes × Json)) : Json :=
  (given name members).head?.getD .null

/-- Each name is text, and no field is given twice. -/
structure HasFields (names : List String) (members : List (Bytes × Json)) : Prop where
  isText : ∀ m ∈ members, (Json.text? m.1).isSome = true
  once : ∀ name ∈ names, (given name members).length ≤ 1

theorem given_cons {key : Bytes} {found : String} (hkey : Json.text? key = some found) :
    given name ((key, v) :: members) =
      if found = name then v :: given name members else given name members := by
  by_cases hname : found = name <;> simp [given, hkey, hname]

theorem named?_cons {m : Bytes × Json} : named? (m :: members) =
    (Json.text? m.1).bind fun found => (named? members).map ((found, m.2) :: ·) := by
  simp only [named?, List.mapM_cons]
  cases Json.text? m.1 with
  | none => rfl
  | some found => cases members.mapM fun m => (Json.text? m.1).map (·, m.2) <;> rfl

theorem named?_isSome : (named? members).isSome = true ↔
    ∀ m ∈ members, (Json.text? m.1).isSome = true := by
  induction members with
  | nil => simp [named?]
  | cons m members ih =>
      rw [named?_cons, List.forall_mem_cons, ← ih]
      cases Json.text? m.1 <;> simp

theorem given_eq_of_named? {named : List (String × Json)} (h : named? members = some named) :
    (named.map (·.1)).count name = (given name members).length ∧
      named.lookup name = (given name members).head? := by
  induction members generalizing named with
  | nil =>
      obtain rfl := Option.some.inj h
      exact ⟨rfl, rfl⟩
  | cons m members ih =>
      rw [named?_cons] at h
      obtain ⟨found, hfound, h⟩ := Option.bind_eq_some_iff.1 h
      obtain ⟨others, hothers, rfl⟩ := Option.map_eq_some_iff.1 h
      obtain ⟨hcount, hlookup⟩ := ih hothers
      rw [given_cons hfound]
      by_cases hname : found = name
      · simp [hname, hcount]
      · have hne : (name == found) = false := beq_eq_false_iff_ne.2 (Ne.symm hname)
        simp [hname, hcount, hlookup, hne, List.lookup_cons]

theorem fields?_object : fields? names (.object members) = some vs ↔
    HasFields names members ∧ vs = names.map (value · members) := by
  cases hnamed : named? members with
  | none =>
      have htext : ¬HasFields names members := by
        intro h
        simpa [hnamed] using named?_isSome.2 h.isText
      simp [fields?, hnamed, htext]
  | some named =>
      have htext := named?_isSome.1 (hnamed ▸ rfl : (named? members).isSome = true)
      have honce : (names.all fun name => (named.map (·.1)).count name ≤ 1) = true ↔
          HasFields names members := by
        simp only [List.all_eq_true, decide_eq_true_eq, (given_eq_of_named? hnamed).1]
        exact ⟨fun h => ⟨htext, h⟩, fun h => h.once⟩
      have hvalues : (names.map fun name => (named.lookup name).getD .null) =
          names.map (value · members) := by
        simp only [(given_eq_of_named? hnamed).2, value]
      constructor
      · intro h
        rw [fields?, hnamed] at h
        obtain ⟨_, hnamed', h⟩ := Option.bind_eq_some_iff.1 h
        obtain rfl := Option.some.inj hnamed'
        obtain ⟨_, hguard, h⟩ := Option.bind_eq_some_iff.1 h
        exact ⟨honce.1 ((Option.guard_eq_some' _).1 hguard),
          (Option.some.inj h).symm.trans hvalues⟩
      · rintro ⟨hfields, rfl⟩
        rw [fields?, hnamed, Option.bind_eq_bind, Option.bind_some, honce.2 hfields, hvalues]
        rfl

/-! Answers that differ in what is not looked at. -/

/-- One change to an object: its members in another order, one more of a name that is no field's,
or one field's value for another that is alike. -/
inductive Revised (names : List String) (inner : String → Json → Json → Prop) :
    Json → Json → Prop where
  | reordered {members members' : List (Bytes × Json)} (h : members.Perm members') :
      Revised names inner (.object members) (.object members')
  | inserted {before after : List (Bytes × Json)} {key : Bytes} {name : String} {v : Json}
      (hkey : Json.text? key = some name) (hname : name ∉ names) :
      Revised names inner (.object (before ++ after)) (.object (before ++ (key, v) :: after))
  | within {before after : List (Bytes × Json)} {key : Bytes} {name : String} {v v' : Json}
      (hkey : Json.text? key = some name) (h : inner name v v') :
      Revised names inner (.object (before ++ (key, v) :: after))
        (.object (before ++ (key, v') :: after))

/-- Any number of changes, each made or taken back. -/
def Alike (names : List String) (inner : String → Json → Json → Prop) : Json → Json → Prop :=
  Relation.EqvGen (Revised names inner)

/-! The three objects, each with those of its fields that may differ within. -/

def AlikeStorage : Json → Json → Prop := Alike ["downloadUrl"] fun _ => Eq

def AlikeInfo : Json → Json → Prop := Alike ["storageApi"] fun _ => AlikeStorage

def AlikeAnswer : Json → Json → Prop :=
  Alike ["authorizationToken", "downloadUrl", "apiInfo"] fun name =>
    if name = "apiInfo" then AlikeInfo else Eq

theorem given_append {after : List (Bytes × Json)} :
    given name (members ++ after) = given name members ++ given name after := by
  simp [given]

/-- A change leaves as many values of each field, and a value that is alone becomes one that is
alike. -/
theorem Revised.given_alike (h : Revised names inner (.object members) (.object members'))
    (hname : name ∈ names) :
    (given name members).length = (given name members').length ∧
      ((given name members).length ≤ 1 →
        List.Forall₂ (fun w w' => w = w' ∨ inner name w w') (given name members)
          (given name members')) := by
  have hrefl (ws : List Json) : List.Forall₂ (fun w w' => w = w' ∨ inner name w w') ws ws :=
    List.forall₂_same.2 fun w _ => .inl rfl
  cases h with
  | reordered hperm =>
      have hgiven : (given name members).Perm (given name members') := (hperm.filter _).map _
      refine ⟨hgiven.length_eq, fun hone => ?_⟩
      have heq : given name members = given name members' := by
        rcases Nat.le_one_iff_eq_zero_or_eq_one.1 hone with hzero | hone
        · rw [List.length_eq_zero_iff.1 hzero] at hgiven ⊢
          exact hgiven.nil_eq
        · obtain ⟨w, hw⟩ := List.length_eq_one_iff.1 hone
          rw [hw] at hgiven ⊢
          exact (List.perm_singleton.1 hgiven.symm).symm
      exact heq ▸ hrefl _
  | @inserted before after key other v hkey hother =>
      have hne : other ≠ name := fun h => hother (h ▸ hname)
      have heq : given name (before ++ (key, v) :: after) = given name (before ++ after) := by
        rw [given_append, given_cons hkey, if_neg hne, given_append]
      rw [heq]
      exact ⟨rfl, fun _ => hrefl _⟩
  | @within before after key found v v' hkey hinner =>
      simp only [given_append, given_cons hkey]
      by_cases hfound : found = name
      · subst hfound
        simp only [if_true]
        exact ⟨by simp, fun _ => List.rel_append (hrefl _) (.cons (.inr hinner) (hrefl _))⟩
      · simp only [if_neg hfound]
        exact ⟨trivial, fun _ => hrefl _⟩

theorem Revised.isText_iff (h : Revised names inner (.object members) (.object members')) :
    (∀ m ∈ members, (Json.text? m.1).isSome = true) ↔
      ∀ m ∈ members', (Json.text? m.1).isSome = true := by
  cases h with
  | reordered hperm => simp only [hperm.mem_iff]
  | inserted hkey hother =>
      simp only [List.forall_mem_append, List.forall_mem_cons, hkey, Option.isSome_some, true_and]
  | within hkey h => simp only [List.forall_mem_append, List.forall_mem_cons]

theorem Revised.hasFields_iff (h : Revised names inner (.object members) (.object members')) :
    HasFields names members ↔ HasFields names members' := by
  have hlength (name : String) (hname : name ∈ names) := (h.given_alike hname).1
  constructor
  · rintro ⟨htext, honce⟩
    exact ⟨h.isText_iff.1 htext, fun name hname => hlength name hname ▸ honce name hname⟩
  · rintro ⟨htext, honce⟩
    exact ⟨h.isText_iff.2 htext, fun name hname => (hlength name hname).symm ▸ honce name hname⟩

/-- What does not tell apart what is alike reads the same of a field after a change. -/
theorem Revised.read_value {α : Type} {f : Json → α}
    (h : Revised names inner (.object members) (.object members')) (hname : name ∈ names)
    (hf : ∀ w w', inner name w w' → f w = f w') (hfields : HasFields names members) :
    f (value name members) = f (value name members') := by
  have halike := (h.given_alike hname).2 (hfields.once name hname)
  unfold value
  generalize given name members = values at halike
  generalize given name members' = values' at halike
  cases halike with
  | nil => rfl
  | cons hhead _ =>
      rcases hhead with rfl | hinner
      · rfl
      · exact hf _ _ hinner

theorem Revised.exists_members (h : Revised names inner v v') :
    ∃ members members', v = .object members ∧ v' = .object members' := by
  cases h <;> exact ⟨_, _, rfl, rfl⟩

theorem Alike.read_eq {α : Type} {f : Json → α}
    (hf : ∀ w w', Revised names inner w w' → f w = f w') (h : Alike names inner v v') :
    f v = f v' := by
  induction h with
  | rel w w' hrevised => exact hf w w' hrevised
  | refl w => rfl
  | symm w w' _ ih => exact ih.symm
  | trans u v w _ _ ih₁ ih₂ => exact ih₁.trans ih₂

theorem fields?_eq_none (h : ¬HasFields names members) : fields? names (.object members) = none :=
  Option.eq_none_iff_forall_ne_some.2 fun _ hsome => h (fields?_object.1 hsome).1

theorem within?_eq_of_alike {α : Type} {read : Json → Option (Option α)}
    (hread : ∀ w w', inner name w w' → read w = read w') (h : Alike [name] inner v v') :
    within? name read v = within? name read v' := by
  refine h.read_eq fun w w' hrevised => ?_
  obtain ⟨members, members', rfl, rfl⟩ := hrevised.exists_members
  by_cases hfields : HasFields [name] members
  · have hfields' := hrevised.hasFields_iff.1 hfields
    simp only [within?, fields?_object.2 ⟨hfields, rfl⟩, fields?_object.2 ⟨hfields', rfl⟩]
    exact hrevised.read_value List.mem_cons_self hread hfields
  · have hfields' := mt hrevised.hasFields_iff.2 hfields
    simp only [within?, fields?_eq_none hfields, fields?_eq_none hfields']

theorem ofJson?_of_hasFields
    (h : HasFields ["authorizationToken", "downloadUrl", "apiInfo"] members) :
    Answer.ofJson? (.object members) = do
      return ⟨← optionalText? (value "authorizationToken" members),
        ← optionalText? (value "downloadUrl" members),
        ← within? "storageApi" (within? "downloadUrl" optionalText?)
          (value "apiInfo" members)⟩ := by
  rw [Answer.ofJson?, fields?_object.2 ⟨h, rfl⟩]
  rfl

theorem ofJson?_of_not_hasFields
    (h : ¬HasFields ["authorizationToken", "downloadUrl", "apiInfo"] members) :
    Answer.ofJson? (.object members) = none := by
  rw [Answer.ofJson?, fields?_eq_none h]
  rfl

theorem ofJson?_eq_of_alike (h : AlikeAnswer v v') : Answer.ofJson? v = Answer.ofJson? v' := by
  refine h.read_eq fun w w' hrevised => ?_
  obtain ⟨members, members', rfl, rfl⟩ := hrevised.exists_members
  by_cases hfields : HasFields ["authorizationToken", "downloadUrl", "apiInfo"] members
  · have htext (name : String) (hname : name ∈ ["authorizationToken", "downloadUrl", "apiInfo"])
        (hne : name ≠ "apiInfo") :
        optionalText? (value name members) = optionalText? (value name members') := by
      refine hrevised.read_value hname (fun w w' hinner => ?_) hfields
      rw [if_neg hne] at hinner
      rw [hinner]
    have hinfo : within? "storageApi" (within? "downloadUrl" optionalText?)
          (value "apiInfo" members) =
        within? "storageApi" (within? "downloadUrl" optionalText?) (value "apiInfo" members') := by
      refine hrevised.read_value (by simp) (fun w w' hinner => ?_) hfields
      rw [if_pos rfl] at hinner
      exact within?_eq_of_alike (fun _ _ hstorage =>
        within?_eq_of_alike (fun _ _ heq => congrArg optionalText? heq) hstorage) hinner
    rw [ofJson?_of_hasFields hfields, ofJson?_of_hasFields (hrevised.hasFields_iff.1 hfields),
      htext "authorizationToken" (by simp) (by decide), htext "downloadUrl" (by simp) (by decide),
      hinfo]
  · rw [ofJson?_of_not_hasFields hfields,
      ofJson?_of_not_hasFields (mt hrevised.hasFields_iff.2 hfields)]

/-! Reading. -/

variable {complaint : Bytes → String} {url : String} {body : Bytes}

theorem read_of_written (h : v.Written body) : read complaint url body = match Answer.ofJson? v with
    | none => .error (.unreadable url (complaint body))
    | some answer => match ofAnswer? answer with
      | none => .error (.missingToken url)
      | some grant => .ok grant := by
  rw [read, Json.parse?_eq_some.2 h]
  rfl

/-! What an answer grants. -/

/-- What a value tells where a text is expected that may be left out. -/
inductive Tells : Json → Option String → Prop where
  | nothing : Tells .null none
  | text {raw : Bytes} {s : String} (h : Json.text? raw = some s) : Tells (.text raw) (some s)

/-- What a value tells where an object is expected that may be left out and has the text further in.
A list of one value stands for the object as well. -/
inductive TellsWithin (name : String) (tells : Json → Option String → Prop) :
    Json → Option String → Prop where
  | nothing : TellsWithin name tells .null none
  | object {members : List (Bytes × Json)} {told : Option String} (h : HasFields [name] members)
      (htells : tells (value name members) told) : TellsWithin name tells (.object members) told
  | list {v : Json} {told : Option String} (htells : tells v told) :
      TellsWithin name tells (.array [v]) told

/-- The object grants its token, if that is not empty, for the URL at the top or else the one
further in, unless it is empty. -/
structure Grants (members : List (Bytes × Json)) (g : Grant) : Prop where
  hasFields : HasFields ["authorizationToken", "downloadUrl", "apiInfo"] members
  token : Tells (value "authorizationToken" members) (some g.token)
  token_ne_empty : g.token ≠ ""
  downloadBase : ∃ outer nested, Tells (value "downloadUrl" members) outer ∧
    TellsWithin "storageApi" (TellsWithin "downloadUrl" Tells) (value "apiInfo" members) nested ∧
    g.downloadBase = (outer.or nested).filter (!·.isEmpty)

theorem optionalText?_eq_some {told : Option String} :
    optionalText? v = some told ↔ Tells v told := by
  constructor
  · intro h
    cases v with
    | null =>
        obtain rfl := Option.some.inj h
        exact .nothing
    | text raw =>
        obtain ⟨s, hraw, rfl⟩ := Option.map_eq_some_iff.1 h
        exact .text hraw
    | _ => cases h
  · rintro (_ | hraw)
    · rfl
    · exact Option.map_eq_some_iff.2 ⟨_, hraw, rfl⟩

theorem within?_eq_some {read : Json → Option (Option String)}
    {tells : Json → Option String → Prop}
    (hread : ∀ v told, read v = some told ↔ tells v told) {told : Option String} :
    within? name read v = some told ↔ TellsWithin name tells v told := by
  constructor
  · intro h
    cases v with
    | null =>
        obtain rfl := Option.some.inj h
        exact .nothing
    | object members =>
        obtain ⟨_, hvalues, h⟩ := Option.bind_eq_some_iff.1 h
        obtain ⟨hfields, rfl⟩ := fields?_object.1 hvalues
        exact .object hfields ((hread _ _).1 h)
    | array items =>
        obtain ⟨values, hvalues, h⟩ := Option.bind_eq_some_iff.1 h
        rw [fields?, Option.ite_none_right_eq_some, beq_iff_eq, List.length_singleton,
          List.length_eq_one_iff] at hvalues
        obtain ⟨⟨w, rfl⟩, hvalues⟩ := hvalues
        obtain rfl := Option.some.inj hvalues
        exact .list ((hread _ _).1 h)
    | _ => cases h
  · rintro (_ | ⟨hfields, htells⟩ | htells)
    · rfl
    · rw [within?, fields?_object.2 ⟨hfields, rfl⟩]
      · exact (hread _ _).2 htells
      · simp
    · exact (hread _ _).2 htells

theorem ofAnswer?_eq_some {a : Answer} {g : Grant} : ofAnswer? a = some g ↔
    a.token = some g.token ∧ g.token ≠ "" ∧
      g.downloadBase = (a.outerUrl.or a.innerUrl).filter (!·.isEmpty) := by
  constructor
  · intro h
    obtain ⟨token, htoken, rfl⟩ := Option.map_eq_some_iff.1 h
    obtain ⟨htoken, hne⟩ := Option.filter_eq_some_iff.1 htoken
    exact ⟨htoken, by simpa using hne, rfl⟩
  · rintro ⟨htoken, hne, hbase⟩
    refine Option.map_eq_some_iff.2 ⟨g.token, Option.filter_eq_some_iff.2 ⟨htoken, ?_⟩, ?_⟩
    · simpa using hne
    · rw [← hbase]

theorem read_eq_ok (h : (Json.object members).Written body) {g : Grant} :
    read complaint url body = .ok g ↔ Grants members g := by
  have hread : read complaint url body = .ok g ↔
      ∃ a, Answer.ofJson? (.object members) = some a ∧ ofAnswer? a = some g := by
    rw [read_of_written h]
    cases Answer.ofJson? (.object members) with
    | none => simp
    | some a => cases hgrant : ofAnswer? a <;> simp [hgrant]
  rw [hread]
  constructor
  · rintro ⟨a, ha, hg⟩
    obtain ⟨htoken, hne, hbase⟩ := ofAnswer?_eq_some.1 hg
    by_cases hfields : HasFields ["authorizationToken", "downloadUrl", "apiInfo"] members
    · rw [ofJson?_of_hasFields hfields] at ha
      obtain ⟨token, htells, ha⟩ := Option.bind_eq_some_iff.1 ha
      obtain ⟨outer, houter, ha⟩ := Option.bind_eq_some_iff.1 ha
      obtain ⟨nested, hnested, ha⟩ := Option.bind_eq_some_iff.1 ha
      obtain rfl := Option.some.inj ha
      obtain rfl : token = some g.token := htoken
      exact ⟨hfields, optionalText?_eq_some.1 htells, hne, outer, nested,
        optionalText?_eq_some.1 houter,
        (within?_eq_some fun _ _ => within?_eq_some fun _ _ => optionalText?_eq_some).1 hnested,
        hbase⟩
    · rw [ofJson?_of_not_hasFields hfields] at ha
      cases ha
  · rintro ⟨hfields, htoken, hne, outer, nested, houter, hnested, hbase⟩
    refine ⟨⟨some g.token, outer, nested⟩, ?_, ofAnswer?_eq_some.2 ⟨rfl, hne, hbase⟩⟩
    rw [ofJson?_of_hasFields hfields, optionalText?_eq_some.2 htoken,
      optionalText?_eq_some.2 houter,
      (within?_eq_some fun _ _ => within?_eq_some fun _ _ => optionalText?_eq_some).2 hnested]
    rfl

theorem given_of_value (hne : value name members ≠ .null)
    (hone : (given name members).length ≤ 1) :
    given name members = [value name members] := by
  unfold value at hne ⊢
  generalize given name members = values at hne hone
  match values, hone with
  | [], _ => exact absurd rfl hne
  | [w], _ => rfl

theorem Grants.given_token {g : Grant} (h : Grants members g) :
    ∃ raw, given "authorizationToken" members = [.text raw] ∧ Json.text? raw = some g.token := by
  have hgiven : value "authorizationToken" members ≠ .null →
      given "authorizationToken" members = [value "authorizationToken" members] :=
    fun hne => given_of_value hne (h.hasFields.once _ (by simp))
  have htoken := h.token
  generalize value "authorizationToken" members = token at hgiven htoken
  cases htoken with
  | text hraw => exact ⟨_, hgiven (by simp), hraw⟩

theorem Grants.downloadBase_ne_empty {g : Grant} (h : Grants members g) :
    g.downloadBase ≠ some "" := by
  obtain ⟨outer, nested, -, -, hbase⟩ := h.downloadBase
  intro hempty
  have hne := (Option.filter_eq_some_iff.1 (hbase.symm.trans hempty)).2
  exact absurd hne (by decide)

/-- The same result or the same error, but for the words about what cannot be read at all. -/
inductive SameOutcome : Except AuthorizationError Grant → Except AuthorizationError Grant → Prop where
  | same (result) : SameOutcome result result
  | unreadable (url complaint complaint') :
      SameOutcome (.error (.unreadable url complaint)) (.error (.unreadable url complaint'))

/-- An answer is read the same in whatever order the members of its three objects stand, whichever
members of other names are among them and however it is laid out; also where a field is given
twice, which is refused. What is read of an object is what it grants: the text of the one token
that is given, which is not empty, and no empty URL. -/
theorem answers_are_read_for_their_fields (complaint : Bytes → String) (url : String) :
    (∀ body body' v v', v.Written body → v'.Written body' → AlikeAnswer v v' →
      SameOutcome (read complaint url body) (read complaint url body')) ∧
    ∀ body members, (Json.object members).Written body → ∀ g,
      (read complaint url body = .ok g ↔ Grants members g) ∧
      (read complaint url body = .ok g →
        (∃ raw, given "authorizationToken" members = [.text raw] ∧ Json.text? raw = some g.token) ∧
        g.token ≠ "" ∧ g.downloadBase ≠ some "") := by
  constructor
  · intro body body' v v' hv hv' halike
    rw [read_of_written hv, read_of_written hv', ofJson?_eq_of_alike halike]
    cases Answer.ofJson? v' with
    | none => exact .unreadable _ _ _
    | some answer => exact .same _
  · intro body members hmembers g
    refine ⟨read_eq_ok hmembers, fun hread => ?_⟩
    have hgrants := (read_eq_ok hmembers).1 hread
    exact ⟨hgrants.given_token, hgrants.token_ne_empty, hgrants.downloadBase_ne_empty⟩

/-! An answer, and the same one with its members in another order and one more of them, in which
the name of a field and a brace occur. -/

def sampleToken : Bytes × Json := (Utf8.encode "authorizationToken", .text (Utf8.encode "tok"))

def sampleUrl : Bytes × Json := (Utf8.encode "downloadUrl", .text (Utf8.encode "https://b2.test"))

def sampleBuckets : Bytes × Json :=
  (Utf8.encode "buckets", .array [.number ⟨false, ['1'], some ['5'], some 3⟩,
    .object [(Utf8.encode "downloadUrl", .text (Utf8.encode "\x7d"))]])

def sampleInfo (storage : List (Bytes × Json)) : Bytes × Json :=
  (Utf8.encode "apiInfo", .object [(Utf8.encode "storageApi", .object storage)])

def sampleBody : Bytes :=
  Utf8.encode ("\x7b\"authorizationToken\":\"tok\"," ++
    "\"apiInfo\":\x7b\"storageApi\":\x7b\"downloadUrl\":\"https://b2.test\"\x7d\x7d\x7d")

def sampleRevision : Bytes :=
  Utf8.encode ("\x7b \"apiInfo\": \x7b\"storageApi\":\n\x7b\"buckets\": " ++
    "[1.5e3,\x7b\"downloadUrl\":\"\x7d\"\x7d],\t\"downloadUrl\" : \"https://b2.test\"\x7d\x7d" ++
    ",\"authorizationToken\":\"tok\"\x7d ")

theorem written_samples :
    (Json.object [sampleToken, sampleInfo [sampleUrl]]).Written sampleBody ∧
      (Json.object [sampleInfo [sampleBuckets, sampleUrl], sampleToken]).Written
        sampleRevision := by
  have text (s : String) (h : Json.hasSoundEscapes (Utf8.encode s) = true) :
      Json.IsEscaped (Utf8.encode s) := Json.hasSoundEscapes_iff.1 h
  have token := text "authorizationToken" (by decide)
  have tok := text "tok" (by decide)
  have info := text "apiInfo" (by decide)
  have storage := text "storageApi" (by decide)
  have url := text "downloadUrl" (by decide)
  have host := text "https://b2.test" (by decide)
  have buckets := text "buckets" (by decide)
  have brace := text "\x7d" (by decide)
  have number : (⟨false, ['1'], some ['5'], some 3⟩ : Json.Number).Written
      ((Utf8.encode "1.5e3").map fun b => Char.ofNat b.toNat) :=
    Json.Number.ofChars?_eq_some.1 (by decide)
  constructor
  · refine ⟨_, .object token (.text tok) (.cons info (.object storage
      (.object url (.text host) .nil) .nil) .nil), Json.Token.ofBytes?_eq_some.1 ?_⟩
    decide +kernel
  · refine ⟨_, .object info (.object storage (.object buckets (.array (.word (.number number))
      (.cons (.object url (.text brace) .nil) .nil)) (.cons url (.text host) .nil)) .nil)
      (.cons token (.text tok) .nil), Json.Token.ofBytes?_eq_some.1 ?_⟩
    decide +kernel

theorem alike_samples : AlikeAnswer (.object [sampleToken, sampleInfo [sampleUrl]])
    (.object [sampleInfo [sampleBuckets, sampleUrl], sampleToken]) := by
  have hstorage : AlikeStorage (.object [sampleUrl]) (.object [sampleBuckets, sampleUrl]) :=
    .rel _ _ (@Revised.inserted _ _ [] [sampleUrl] _ "buckets" _ (by decide +kernel) (by decide))
  have hinfo : AlikeInfo (sampleInfo [sampleUrl]).2 (sampleInfo [sampleBuckets, sampleUrl]).2 :=
    .rel _ _ (@Revised.within _ _ [] [] _ "storageApi" _ _ (by decide +kernel) hstorage)
  have hrevised : AlikeAnswer (.object [sampleToken, sampleInfo [sampleUrl]])
      (.object [sampleToken, sampleInfo [sampleBuckets, sampleUrl]]) :=
    .rel _ _ (@Revised.within _ _ [sampleToken] [] _ "apiInfo" _ _ (by decide +kernel) hinfo)
  exact hrevised.trans _ _ _ (.rel _ _ (.reordered (.swap _ _ _)))

/-- Says of a body that it is not read. -/
def sampleComplaint (_ : Bytes) : String := "expected value at line 1 column 1"

theorem answers_are_read_for_their_fields_sample :
    read sampleComplaint "b2" sampleBody = .ok ⟨"tok", some "https://b2.test"⟩ ∧
      SameOutcome (read sampleComplaint "b2" sampleBody)
        (read sampleComplaint "b2" sampleRevision) ∧
      (∃ raw, given "authorizationToken" [sampleToken, sampleInfo [sampleUrl]] = [.text raw] ∧
        Json.text? raw = some "tok") ∧ "tok" ≠ "" ∧ some "https://b2.test" ≠ some "" := by
  have hread : read sampleComplaint "b2" sampleBody = .ok ⟨"tok", some "https://b2.test"⟩ := by
    decide +kernel
  exact ⟨hread,
    (answers_are_read_for_their_fields sampleComplaint "b2").1 _ _ _ _ written_samples.1
      written_samples.2 alike_samples,
    ((answers_are_read_for_their_fields sampleComplaint "b2").2 _ _ written_samples.1 _).2 hread⟩

end Prelaunch.Grant
