import Prelaunch.Bootstrap
import Prelaunch.Proofs.Account
import Prelaunch.Proofs.Agreement

/-!
Preparations side by side. If the settings of two bootstraps are the same but for related headers, so
is all that they do, one stage after the other, and they come to one result.
-/

namespace Prelaunch

variable {H : Header → Header → Prop} {isSeen : Event → Bool} {m : Machine}

/-- Pairs of keys that are shown to the provider by related headers. -/
def KeysAlike (H : Header → Header → Prop) (keys keys' : String × String) : Prop :=
  H (Grant.proof keys.1 keys.2) (Grant.proof keys'.1 keys'.2)

open Action in
theorem agree_authorize (hveil : m.network.IsVeil H) (client : Http.Client) (url : String)
    {keyId applicationKey keyId' applicationKey' : String}
    (hproof : H (Grant.proof keyId applicationKey) (Grant.proof keyId' applicationKey')) :
    Agree H isSeen Eq (authorize m client url keyId applicationKey)
      (authorize m client url keyId' applicationKey') := by
  refine .bind (.tell _ _ _) fun _ _ _ => ?_
  refine .bind (.within _ (.request hveil client url (.cons hproof .nil))) ?_
  rintro response _ rfl
  -- from here on the two runs do the same with the same answer
  dsimp only
  split
  · exact .throw_bind _ _ _
  refine .bind (.orFail_self _ _) ?_
  rintro body _ rfl
  refine .bind (.orFail_self _ _) ?_
  rintro grant _ rfl
  exact .bind (.tell _ _ _) fun _ _ _ => .pure rfl

open Action in
theorem agree_fetch (hveil : m.network.IsVeil H) (client : Http.Client) (url : String)
    (path : Path) {header header' : Option Header} (hheader : Option.Rel H header header') :
    Agree H isSeen Eq (Download.fetch m client url path header)
      (Download.fetch m client url path header') := by
  have hextra : List.Forall₂ H header.toList header'.toList := by
    cases hheader with
    | some h => exact .cons h .nil
    | none => exact .nil
  have hcontent : Agree H isSeen Eq (Download.content m client url header)
      (Download.content m client url header') := by
    refine .bind (.tell _ _ _) fun _ _ _ => ?_
    refine .bind (.within _ (.request hveil client url hextra)) ?_
    rintro response _ rfl
    dsimp only
    split
    · exact .throw_bind _ _ _
    · exact .orFail_self _ _
  refine .bind hcontent ?_
  rintro bytes _ rfl
  refine .bind .files ?_
  rintro files _ rfl
  refine .bind (.orFail_self _ _) ?_
  rintro written _ rfl
  refine .bind (.setFiles written) fun _ _ _ => ?_
  exact .bind (.tell _ _ _) fun _ _ _ => .pure rfl

namespace Broker

/-- The same provider, and related headers of the operator's own or none. -/
structure Alike (H : Header → Header → Prop) (b b' : Broker) : Prop where
  explicit : Option.Rel H b.explicit b'.explicit
  provider : b.provider = b'.provider

theorem Alike.choose {b b' : Broker} (hrefl : ∀ h, H h h) (h : Alike H b b') (url : String) :
    Option.Rel H (b.choose url).header? (b'.choose url).header? ∧
      (b.choose url).label = (b'.choose url).label := by
  obtain ⟨explicit, provider⟩ := b
  obtain ⟨explicit', provider'⟩ := b'
  obtain ⟨hexplicit, hprovider⟩ := h
  obtain rfl : provider = provider' := hprovider
  cases hexplicit with
  | some hh => exact ⟨.some hh, rfl⟩
  | none =>
      cases provider with
      | none => exact ⟨.none, rfl⟩
      | some scheme =>
          unfold Broker.choose
          dsimp only
          split
          · exact ⟨.some (hrefl _), rfl⟩
          · exact ⟨.none, rfl⟩

end Broker

/-- Settings that differ in nothing but headers, and are refused for the same reason if they are. -/
structure Config.Alike (H : Header → Header → Prop) (c c' : Config) : Prop where
  bootstrap : c.bootstrap = c'.bootstrap
  http : c.http = c'.http
  authUrl : c.account.authUrl = c'.account.authUrl
  primaryUrl : c.primaryUrl = c'.primaryUrl
  valid : c.validate = c'.validate
  explicitHeader : Prelaunch.Alike (Option.Rel H) c.explicitHeader c'.explicitHeader
  credentials : Option.Rel (KeysAlike H) c.account.credentials? c'.account.credentials?

theorem Config.Alike.refl (hrefl : ∀ h, H h h) (c : Config) : Config.Alike H c c where
  bootstrap := rfl
  http := rfl
  authUrl := rfl
  primaryUrl := rfl
  valid := rfl
  explicitHeader := .refl (optionRel_refl hrefl) _
  credentials := optionRel_refl (fun keys => hrefl (Grant.proof keys.1 keys.2)) _

namespace Config

open Action

theorem agree_readSources {path : Path} {env env' : Environment}
    (h : ∀ files, settingsAt m files path env = settingsAt m files path env') :
    Agree H isSeen Eq (readSources m path env) (readSources m path env') := by
  refine .bind .files ?_
  rintro files _ rfl
  have htell : Agree H isSeen Eq (tellSource path (files.doesExist m.workingDir path))
      (tellSource path (files.doesExist m.workingDir path)) := by
    unfold tellSource
    split
    · exact .tell _ _ _
    · exact .tell _ _ _
  refine .bind htell fun _ _ _ => ?_
  rw [h]
  exact .orFail_self _ _

theorem agree_checked {S : Config → Config → Prop} {c c' : Config}
    (hvalid : c.validate = c'.validate) (h : S c c') :
    Agree H isSeen S (checked c) (checked c') := by
  unfold checked
  rw [hvalid]
  exact .bind (.orFail_self _ _) fun _ _ _ => .pure h

end Config

namespace Bootstrap

open Action

structure Alike (H : Header → Header → Prop) (b b' : Bootstrap) : Prop where
  config : Config.Alike H b.config b'.config
  explicitHeader : Option.Rel H b.explicitHeader b'.explicitHeader
  artifacts : b.artifacts = b'.artifacts
  client : b.client = b'.client

variable {b b' : Bootstrap}

theorem agree_ensureWorkingDirectory (m : Machine) (dir : Path) :
    Agree H isSeen Eq (ensureWorkingDirectory m dir) (ensureWorkingDirectory m dir) := by
  refine .bind .files ?_
  rintro files _ rfl
  exact .bind (.setFiles _) fun _ _ _ => .orFail_self _ _

theorem agree_tellDirectory (m : Machine) (dir : Path) :
    Agree H isSeen Eq (tellDirectory m dir) (tellDirectory m dir) := by
  refine .bind .files ?_
  rintro files _ rfl
  dsimp only
  split
  · exact .tell _ _ _
  · exact .tell _ _ _
  · exact .forM (fun _ => .tell _ _ _) _

/-- Related keys are granted the same, since the answer is to the URL. -/
theorem agree_providerScheme (hveil : m.network.IsVeil H) (h : Alike H b b') :
    Agree H isSeen Eq (b.providerScheme m) (b'.providerScheme m) := by
  have hexplicit : b.explicitHeader.isSome = b'.explicitHeader.isSome :=
    isSome_eq_of_rel h.explicitHeader
  unfold providerScheme
  rw [h.client, h.config.authUrl, hexplicit]
  -- of the keys it matters only that there are some, and by what header they are shown
  have hkeys := h.config.credentials
  generalize b.config.account.credentials? = keys at hkeys ⊢
  generalize b'.config.account.credentials? = keys' at hkeys ⊢
  cases hkeys with
  | none => exact .pure rfl
  | @some keys keys' hproof =>
    obtain ⟨keyId, applicationKey⟩ := keys
    obtain ⟨keyId', applicationKey'⟩ := keys'
    have hgrant : Agree H isSeen Eq
        (do
          let grant ← (authorize m b'.client b'.config.account.authUrl keyId applicationKey).within
            .authorization
          some <$> Action.orFail .authorization grant.scheme :
          Action BootstrapError (Option ProviderScheme))
        (do
          let grant ← (authorize m b'.client b'.config.account.authUrl keyId' applicationKey').within
            .authorization
          some <$> Action.orFail .authorization grant.scheme) := by
      refine .bind (.within _ (agree_authorize hveil _ _ hproof)) ?_
      rintro grant _ rfl
      cases grant.scheme with
      | ok scheme => exact .pure rfl
      | error e => exact .throw _
    dsimp only
    split
    · exact .bind (.tell _ _ _) fun _ _ _ => hgrant
    · exact hgrant

theorem agree_fetchOne (hveil : m.network.IsVeil H) (h : Alike H b b')
    {broker broker' : Broker} (hbroker : Broker.Alike H broker broker') (r : ArtifactRequest) :
    Agree H isSeen Eq (b.fetchOne m broker r) (b'.fetchOne m broker' r) := by
  obtain ⟨hheader, hlabel⟩ := hbroker.choose hveil.refl r.url
  unfold fetchOne
  dsimp only
  rw [h.client, hlabel]
  refine .bind (.tell _ _ _) fun _ _ _ => ?_
  refine .bind (.within _ (agree_fetch hveil _ _ _ hheader)) ?_
  rintro bytes _ rfl
  exact .pure rfl

theorem agree_prepare (hveil : m.network.IsVeil H) (args : List Bytes)
    {env env' : Environment} (h : Alike H b b')
    (hlaunch : Launch.make b.config.bootstrap args env =
      Launch.make b'.config.bootstrap args env') :
    Agree H isSeen Eq (b.prepare m args env) (b'.prepare m args env') := by
  unfold prepare
  rw [hlaunch, h.config.bootstrap, h.artifacts]
  refine .bind (agree_ensureWorkingDirectory m _) fun _ _ _ => ?_
  refine .bind (agree_providerScheme hveil h) ?_
  rintro provider _ rfl
  have hbroker : Broker.Alike H ⟨b.explicitHeader, provider⟩ ⟨b'.explicitHeader, provider⟩ :=
    ⟨h.explicitHeader, rfl⟩
  refine .bind (.mapM (agree_fetchOne hveil h hbroker) _) ?_
  rintro fetched _ rfl
  refine .bind (.tell _ _ _) fun _ _ _ => ?_
  refine .bind (agree_tellDirectory m _) fun _ _ _ => ?_
  refine .bind (.orFail_self _ _) ?_
  rintro launch _ rfl
  exact .bind (.tell _ _ _) fun _ _ _ => .pure rfl

/-- Bootstraps are made alike if the variables ask for the same and those passed over are told
alike. -/
theorem agree_make {c c' : Config} {env env' : Environment} (hc : Config.Alike H c c')
    (hvacant : Agree H isSeen Eq (tellVacant env) (tellVacant env'))
    (hplan : ∀ dir primary, plan env dir primary = plan env' dir primary) :
    Agree H isSeen (fun b b' => b.config = c ∧ Alike H b b') (make c env) (make c' env') := by
  unfold make
  rw [hc.http, hc.valid, hplan, hc.bootstrap, hc.primaryUrl]
  refine .bind (.orFail_self _ _) ?_
  rintro client _ rfl
  refine .bind (.orFail_self _ _) fun _ _ _ => ?_
  refine .bind (.orFail _ hc.explicitHeader) fun header header' hheader => ?_
  refine .bind hvacant fun _ _ _ => ?_
  refine .bind (.orFail_self _ _) ?_
  rintro artifacts _ rfl
  exact .pure ⟨rfl, hc, hheader, rfl, rfl⟩

end Bootstrap

end Prelaunch
