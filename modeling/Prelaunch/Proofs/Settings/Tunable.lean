import Prelaunch.Proofs.SecretSources
import Prelaunch.Proofs.Settings.Decoding

/-!
The settings that a file may give, each with its group, its key, its default and what may stand for
its value. They are the parts of what is read of a tree, so a tree is read as some settings exactly
if each of them is decoded from what stands at its place.
-/

namespace Prelaunch

open Settings

inductive Tunable where
  | configDir
  | entrypoint
  | modulePathVar
  | connectTimeout
  | requestTimeout
  | maxRedirects
  | userAgent
  | authUrl
  deriving DecidableEq, Repr

namespace Tunable

abbrev Value : Tunable → Type
  | configDir => Path
  | connectTimeout | maxRedirects => Nat
  | requestTimeout => Option Nat
  | entrypoint | modulePathVar | userAgent | authUrl => String

def group : Tunable → String
  | configDir | entrypoint | modulePathVar => "bootstrap"
  | connectTimeout | requestTimeout | maxRedirects | userAgent => "http"
  | authUrl => "b2"

def key : Tunable → String
  | configDir => "config_dir"
  | entrypoint => "entrypoint"
  | modulePathVar => "module_path_var"
  | connectTimeout => "connect_timeout_secs"
  | requestTimeout => "request_timeout_secs"
  | maxRedirects => "max_redirects"
  | userAgent => "user_agent"
  | authUrl => "auth_url"

def standard : (t : Tunable) → t.Value
  | configDir => .ofText "/app/config"
  | entrypoint => "litellm"
  | modulePathVar => "PYTHONPATH"
  | connectTimeout => (10 : Nat)
  | requestTimeout => none
  | maxRedirects => (10 : Nat)
  | userAgent => "bootfetch/0.1.0"
  | authUrl => "https://api.backblazeb2.com/b2api/v2/b2_authorize_account"

def ofConfig (c : Config) : (t : Tunable) → t.Value
  | configDir => c.bootstrap.configDir
  | entrypoint => c.bootstrap.entrypoint
  | modulePathVar => c.bootstrap.modulePathVar
  | connectTimeout => c.http.connectTimeout
  | requestTimeout => c.http.requestTimeout
  | maxRedirects => c.http.maxRedirects
  | userAgent => c.http.userAgent
  | authUrl => c.account.authUrl

/-- A value stands for a setting: a path or a text by what is printed for it, a number by the count
that it is, and only the request timeout may be nothing. -/
def Decodes : (t : Tunable) → Scalar → t.Value → Prop
  | configDir => fun s v => ∃ text, s.Prints text ∧ v = .ofText text
  | connectTimeout | maxRedirects => Scalar.Counts
  | requestTimeout => Scalar.CountsIfAny
  | entrypoint | modulePathVar | userAgent | authUrl => Scalar.Prints

/-! Readers. -/

def decode : (t : Tunable) → Named → Except LoadError t.Value
  | configDir => fun n => n.text.map Path.ofText
  | connectTimeout | maxRedirects => Named.count
  | requestTimeout => Named.optionalCount
  | entrypoint | modulePathVar | userAgent | authUrl => Named.text

/-- What stands for the setting, with the name under which it is known. -/
def named (t : Tunable) (tree : Tree) : Named := ⟨Group.keyOf t.group t.key, tree⟩

theorem decode_eq_ok_iff {t : Tunable} {tree : Tree} {v : t.Value} :
    t.decode (t.named tree) = .ok v ↔ ∃ origin s, tree = .scalar origin s ∧ t.Decodes s v := by
  cases t with
  | configDir =>
      show (Named.text _).map Path.ofText = _ ↔ ∃ origin s, _ ∧ ∃ text, _
      rw [map_eq_ok]
      constructor
      · rintro ⟨text, hread, rfl⟩
        obtain ⟨origin, s, rfl, hprints⟩ := Named.text_eq_ok_iff.1 hread
        exact ⟨origin, s, rfl, text, hprints, rfl⟩
      · rintro ⟨origin, s, rfl, text, hprints, rfl⟩
        exact ⟨text, Named.text_eq_ok_iff.2 ⟨origin, s, rfl, hprints⟩, rfl⟩
  | connectTimeout | maxRedirects => exact Named.count_eq_ok_iff
  | requestTimeout => exact Named.optionalCount_eq_ok_iff
  | entrypoint | modulePathVar | userAgent | authUrl => exact Named.text_eq_ok_iff

theorem readsSeen_decode (t : Tunable) : ReadsSeen t.decode := by
  cases t with
  | configDir =>
      intro key t t' h
      show (Named.text ⟨key, t⟩).map Path.ofText = _
      rw [Named.readsSeen_text key t t' h]
      rfl
  | connectTimeout | maxRedirects => exact Named.readsSeen_count
  | requestTimeout => exact Named.readsSeen_optionalCount
  | entrypoint | modulePathVar | userAgent | authUrl => exact Named.readsSeen_text

/-- What a tree has at the place of the setting, decoded. -/
def decodeIn (root : Tree) (t : Tunable) : Except LoadError t.Value :=
  match (root.lookup? t.group).bind (·.lookup? t.key) with
  | some tree => t.decode (t.named tree)
  | none => .ok t.standard

end Tunable

/-! The groups. -/

namespace Settings.Group

variable {σ α : Type} {get : σ → α} {decode : Named → Except LoadError α}

theorem isPart_of_append (before : List (Slot σ)) {after : List (Slot σ)} {f : Slot σ}
    (hfills : f.Fills get decode) (hothers : ∀ g ∈ before ++ after, g.Spares get) :
    IsPart (before ++ f :: after) f.name get decode := by
  refine ⟨f, List.mem_append_right _ List.mem_cons_self, rfl, hfills, fun g hg => ?_⟩
  rcases List.mem_append.1 hg with hbefore | hrest
  · exact .inr (hothers g (List.mem_append_left _ hbefore))
  · rcases List.mem_cons.1 hrest with heq | hafter
    · exact .inl heq
    · exact .inr (hothers g (List.mem_append_right _ hafter))

end Settings.Group

namespace Config

open Group Slot

variable {o : HashOrder} {root : Tree} {c c' : Config}

theorem isPart_bootstrapFields :
    IsPart bootstrapFields "config_dir" (·.configDir) (·.text.map Path.ofText) ∧
      IsPart bootstrapFields "entrypoint" (·.entrypoint) Named.text ∧
      IsPart bootstrapFields "module_path_var" (·.modulePathVar) Named.text := by
  refine ⟨isPart_of_append [] (fills_of fun _ _ => rfl) ?_,
    isPart_of_append [_] (fills_of fun _ _ => rfl) ?_,
    isPart_of_append [_, _] (fills_of fun _ _ => rfl) ?_⟩ <;>
  · simp only [List.nil_append, List.cons_append, List.forall_mem_cons]
    exact ⟨spares_of fun _ _ => rfl, spares_of fun _ _ => rfl, List.forall_mem_nil _⟩

theorem isPart_httpFields :
    IsPart httpFields "connect_timeout_secs" (·.connectTimeout) Named.count ∧
      IsPart httpFields "request_timeout_secs" (·.requestTimeout) Named.optionalCount ∧
      IsPart httpFields "max_redirects" (·.maxRedirects) Named.count ∧
      IsPart httpFields "user_agent" (·.userAgent) Named.text := by
  refine ⟨isPart_of_append [] (fills_of fun _ _ => rfl) ?_,
    isPart_of_append [_] (fills_of fun _ _ => rfl) ?_,
    isPart_of_append [_, _] (fills_of fun _ _ => rfl) ?_,
    isPart_of_append [_, _, _] (fills_of fun _ _ => rfl) ?_⟩ <;>
  · simp only [List.nil_append, List.cons_append, List.forall_mem_cons]
    exact ⟨spares_of fun _ _ => rfl, spares_of fun _ _ => rfl, spares_of fun _ _ => rfl,
      List.forall_mem_nil _⟩

theorem isPart_accountFields : IsPart accountFields "auth_url" (·.authUrl) Named.text :=
  isPart_of_append [] (fills_of fun _ _ => rfl) (List.forall_mem_nil _)

theorem isPart_groupFields (o : HashOrder) :
    IsPart (groupFields o) "bootstrap" (·.bootstrap)
        (read o "bootstrap" "BootstrapConfig" bootstrapFields {} ·.tree) ∧
      IsPart (groupFields o) "http" (·.http) (read o "http" "HttpConfig" httpFields {} ·.tree) ∧
      IsPart (groupFields o) "b2" (·.account)
        (read o "b2" "B2Config" accountFields {} ·.tree) := by
  refine ⟨isPart_of_append [] (fills_of fun _ _ => rfl) ?_,
    isPart_of_append [_] (fills_of fun _ _ => rfl) ?_,
    isPart_of_append [_, _] (fills_of fun _ _ => rfl) ?_⟩ <;>
  · simp only [List.nil_append, List.cons_append, List.forall_mem_cons]
    exact ⟨spares_of fun _ _ => rfl, spares_of fun _ _ => rfl, List.forall_mem_nil _⟩

/-- A part of a group that is a table, or missing. -/
theorem decode_of_isPart {σ α : Type} {name typeName key : String} {fields : List (Slot σ)}
    {part : Config → σ} {get : σ → α} {decode : Named → Except LoadError α}
    (hgroup : IsPart (groupFields o) name part (read o name typeName fields (part {}) ·.tree))
    (hfield : IsPart fields key get decode) (h : ofTree o root = .ok c)
    (hroot : ∀ tree, root.lookup? name = some tree → tree.IsTable) :
    (match (root.lookup? name).bind (·.lookup? key) with
      | some tree => decode ⟨keyOf name key, tree⟩
      | none => .ok (get (part {}))) = .ok (get (part c)) := by
  have hpart := hgroup.of_inTable h
  rw [Tree.lookup_entriesOf] at hpart
  cases hlookup : root.lookup? name with
  | none =>
      rw [hlookup] at hpart
      rw [Option.bind_none, hpart]
  | some tree =>
      obtain ⟨entries, rfl⟩ := hroot tree hlookup
      rw [hlookup] at hpart
      dsimp only at hpart
      rw [read_table] at hpart
      have hentry := hfield.of_inTable hpart
      rw [Option.bind_some]
      show (match entries.lookup key with
        | some tree => decode ⟨keyOf name key, tree⟩
        | none => .ok (get (part {}))) = _
      cases hkey : entries.lookup key with
      | none =>
          rw [hkey] at hentry
          exact congrArg Except.ok hentry.symm
      | some tree =>
          rw [hkey] at hentry
          exact hentry

/-- What is read of a tree has each setting as it is decoded, whatever the order of its fields. -/
theorem decodeIn_of_ofTree (h : ofTree o root = .ok c) (t : Tunable)
    (hroot : ∀ tree, root.lookup? t.group = some tree → tree.IsTable) :
    t.decodeIn root = .ok (t.ofConfig c) := by
  obtain ⟨hbootstrap, hhttp, haccount⟩ := isPart_groupFields o
  obtain ⟨hconfigDir, hentrypoint, hmodulePathVar⟩ := isPart_bootstrapFields
  obtain ⟨hconnect, hrequest, hredirects, huserAgent⟩ := isPart_httpFields
  cases t with
  | configDir => exact decode_of_isPart hbootstrap hconfigDir h hroot
  | entrypoint => exact decode_of_isPart hbootstrap hentrypoint h hroot
  | modulePathVar => exact decode_of_isPart hbootstrap hmodulePathVar h hroot
  | connectTimeout => exact decode_of_isPart hhttp hconnect h hroot
  | requestTimeout => exact decode_of_isPart hhttp hrequest h hroot
  | maxRedirects => exact decode_of_isPart hhttp hredirects h hroot
  | userAgent => exact decode_of_isPart hhttp huserAgent h hroot
  | authUrl => exact decode_of_isPart haccount isPart_accountFields h hroot

/-- Settings are what their tunables and secrets are. -/
theorem eq_of_tunables (htunables : ∀ t : Tunable, t.ofConfig c = t.ofConfig c')
    (hsecrets : Secrets.ofConfig c = Secrets.ofConfig c') : c = c' := by
  obtain ⟨⟨configDir, entrypoint, modulePathVar⟩,
    ⟨connectTimeout, requestTimeout, maxRedirects, userAgent⟩, ⟨authUrl, keyId, applicationKey⟩,
    authHeader, primaryUrl⟩ := c
  obtain ⟨⟨configDir', entrypoint', modulePathVar'⟩,
    ⟨connectTimeout', requestTimeout', maxRedirects', userAgent'⟩, ⟨authUrl', keyId', applicationKey'⟩,
    authHeader', primaryUrl'⟩ := c'
  obtain rfl : configDir = configDir' := htunables .configDir
  obtain rfl : entrypoint = entrypoint' := htunables .entrypoint
  obtain rfl : modulePathVar = modulePathVar' := htunables .modulePathVar
  obtain rfl : connectTimeout = connectTimeout' := htunables .connectTimeout
  obtain rfl : requestTimeout = requestTimeout' := htunables .requestTimeout
  obtain rfl : maxRedirects = maxRedirects' := htunables .maxRedirects
  obtain rfl : userAgent = userAgent' := htunables .userAgent
  obtain rfl : authUrl = authUrl' := htunables .authUrl
  obtain ⟨rfl, rfl, rfl, rfl⟩ := Secrets.mk.inj hsecrets
  rfl

/-- Settings with any tunables, and no secrets. -/
theorem exists_of_tunables (value : (t : Tunable) → t.Value) :
    ∃ c : Config, (∀ t : Tunable, t.ofConfig c = value t) ∧ Secrets.ofConfig c = {} := by
  refine ⟨{
    bootstrap := ⟨value .configDir, value .entrypoint, value .modulePathVar⟩
    http := ⟨value .connectTimeout, value .requestTimeout, value .maxRedirects, value .userAgent⟩
    account := { authUrl := value .authUrl } }, fun t => ?_, rfl⟩
  cases t <;> rfl

/-! A tree of which every setting can be decoded. -/

/-- Each of the fields is that of a setting. -/
def AreTunable {σ : Type} (fields : List (Slot σ)) (name : String) : Prop :=
  ∀ f ∈ fields, ∃ t : Tunable, t.group = name ∧ t.key = f.name ∧
    ∀ tree v, t.decode (t.named tree) = .ok v → f.Accepts (t.named tree)

theorem areTunable_bootstrapFields : AreTunable bootstrapFields "bootstrap" := by
  simp only [AreTunable, bootstrapFields, List.forall_mem_cons]
  exact ⟨⟨.configDir, rfl, rfl, fun _ _ => accepts_of⟩, ⟨.entrypoint, rfl, rfl, fun _ _ => accepts_of⟩,
    ⟨.modulePathVar, rfl, rfl, fun _ _ => accepts_of⟩, List.forall_mem_nil _⟩

theorem areTunable_httpFields : AreTunable httpFields "http" := by
  simp only [AreTunable, httpFields, List.forall_mem_cons]
  exact ⟨⟨.connectTimeout, rfl, rfl, fun _ _ => accepts_of⟩,
    ⟨.requestTimeout, rfl, rfl, fun _ _ => accepts_of⟩,
    ⟨.maxRedirects, rfl, rfl, fun _ _ => accepts_of⟩, ⟨.userAgent, rfl, rfl, fun _ _ => accepts_of⟩,
    List.forall_mem_nil _⟩

theorem areTunable_accountFields : AreTunable accountFields "b2" := by
  simp only [AreTunable, accountFields, List.forall_mem_cons]
  exact ⟨⟨.authUrl, rfl, rfl, fun _ _ => accepts_of⟩, List.forall_mem_nil _⟩

theorem exists_read_of_areTunable {σ : Type} {name typeName : String} {fields : List (Slot σ)}
    {default : σ} {tree : Tree} (hfields : AreTunable fields name)
    (hlookup : root.lookup? name = some tree) (htable : tree.IsTable)
    (hdecode : ∀ t : Tunable, ∃ v, t.decodeIn root = .ok v) :
    ∃ s, read o name typeName fields default tree = .ok s := by
  obtain ⟨entries, rfl⟩ := htable
  rw [read_table]
  refine exists_readInto ?_
  rintro ⟨f, n⟩ hfound
  obtain ⟨hf, tree, htree, rfl⟩ := mem_inTable.1 hfound
  obtain ⟨t, rfl, hkey, haccepts⟩ := hfields f hf
  obtain ⟨v, hv⟩ := hdecode t
  have hplace : (root.lookup? t.group).bind (·.lookup? t.key) = some tree := by
    rw [hlookup, hkey]
    exact htree
  unfold Tunable.decodeIn at hv
  rw [hplace] at hv
  have hnamed : t.named tree = ⟨keyOf t.group f.name, tree⟩ := by
    rw [← hkey]
    rfl
  rw [← hnamed]
  exact haccepts tree v hv

theorem exists_ofTree (hroot : ∀ name ∈ (groupFields o).map (·.name),
      ∀ tree, root.lookup? name = some tree → tree.IsTable)
    (hdecode : ∀ t : Tunable, ∃ v, t.decodeIn root = .ok v) : ∃ c, ofTree o root = .ok c := by
  refine exists_readInto ?_
  rintro ⟨f, n⟩ hfound
  obtain ⟨hf, tree, htree, rfl⟩ := mem_inTable.1 hfound
  rw [Tree.lookup_entriesOf] at htree
  have htable : tree.IsTable := hroot f.name (List.mem_map_of_mem hf) tree htree
  simp only [groupFields, List.mem_cons, List.not_mem_nil, or_false] at hf
  rcases hf with rfl | rfl | rfl
  · obtain ⟨s, hs⟩ := exists_read_of_areTunable areTunable_bootstrapFields htree htable hdecode
    exact accepts_of hs
  · obtain ⟨s, hs⟩ := exists_read_of_areTunable areTunable_httpFields htree htable hdecode
    exact accepts_of hs
  · obtain ⟨s, hs⟩ := exists_read_of_areTunable areTunable_accountFields htree htable hdecode
    exact accepts_of hs

theorem mem_groupFields_names {t : Tunable} : t.group ∈ (groupFields o).map (·.name) := by
  cases t <;> simp [Tunable.group, groupFields, Slot.of]

/-- A tree whose groups are tables is read as some settings exactly if each of these is decoded. -/
theorem ofTree_eq_ok_iff (hroot : ∀ name ∈ (groupFields o).map (·.name),
      ∀ tree, root.lookup? name = some tree → tree.IsTable) :
    ofTree o root = .ok c ↔
      (∀ t : Tunable, t.decodeIn root = .ok (t.ofConfig c)) ∧ Secrets.ofConfig c = {} := by
  constructor
  · intro h
    exact ⟨fun t => decodeIn_of_ofTree h t (hroot _ mem_groupFields_names), ofConfig_of_ofTree h⟩
  · rintro ⟨hdecode, hsecrets⟩
    obtain ⟨c', h⟩ := exists_ofTree hroot fun t => ⟨_, hdecode t⟩
    have hsame : c' = c := by
      refine eq_of_tunables (fun t => ?_) (by rw [ofConfig_of_ofTree h, hsecrets])
      have hread := decodeIn_of_ofTree h t (hroot _ mem_groupFields_names)
      exact Except.ok.inj (hread.symm.trans (hdecode t))
    rw [h, hsame]

end Config

end Prelaunch
