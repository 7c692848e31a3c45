import Prelaunch.Proofs.Confinement

/-!
How far a header of the operator's own goes. If the client drops its name for good when a redirect
leaves the host, the header stays at the host and port of the download it was attached to. A header
of another name may be sent to any host that a download is redirected to.
-/

namespace Prelaunch.Bootstrap

open Http.Client (CarriesAt StaysAt)

variable {b : Bootstrap} {c : Config} {env₀ : Environment} {start : Progress} {raw : String}
  {h : Header}

/-- With a header of the operator's own, each download that is reached is the chain that begins
with this header, for its URL. -/
theorem sent_of_own_header (hmake : ((make c env₀).run start).1 = .ok b)
    (hset : c.authHeader = some raw) (hparse : Header.parse raw = .ok h) (m : Machine)
    (args : List Bytes) (env : Environment) (p : Progress) :
    ∃ authorization attempted, (authorization = [] ∨ authorization = b.asked m.network) ∧
      Reached b.artifacts ((b.prepare m args env).run p).1 attempted ∧
      ((b.prepare m args env).run p).2.sent = p.sent ++ authorization ++
        attempted.flatMap fun r => (b.client.get m.network r.url [h]).sent := by
  have hbuilt := isBuilt_of_make hmake
  obtain rfl := hbuilt.config
  have hexplicit : b.explicitHeader = some h := by
    simpa [Config.explicitHeader, hset, hparse, eq_comm] using hbuilt.header
  obtain ⟨result, after, hrun, hstages⟩ := b.stages m args env p
  rw [hrun]
  cases hstages with
  | unusable => exact ⟨[], [], .inl rfl, .unusable, by simp⟩
  | refused => exact ⟨b.asked m.network, [], .inr rfl, .refused, by simp⟩
  | @provided t provider written failure after hdir hprovided hdownloads hsent =>
      refine ⟨b.asked m.network, b.artifacts.take (written.length + 1), .inr rfl,
        reached_conclusion hdownloads args env, ?_⟩
      rw [hsent]
      simp [ArtifactRequest.exchange, Broker.choose, AuthChoice.header?, hexplicit]

/-- Let the client drop headers of the own one's name for good once a redirect leaves the host. Then,
whatever the network answers, and wherever it redirects, the operator's own header is on a request of
a download only as long as the requests stay at the host and port of its URL. -/
theorem prepare_confines_own_header (hmake : ((make c env₀).run start).1 = .ok b)
    (hset : c.authHeader = some raw) (hparse : Header.parse raw = .ok h) (m : Machine)
    (hdrops : m.network.DropsForGood h.name) (args : List Bytes) (env : Environment)
    (p : Progress) :
    (∃ authorization attempted, (authorization = [] ∨ authorization = b.asked m.network) ∧
      Reached b.artifacts ((b.prepare m args env).run p).1 attempted ∧
      ((b.prepare m args env).run p).2.sent = p.sent ++ authorization ++
        attempted.flatMap fun r => (b.client.get m.network r.url [h]).sent) ∧
    ∀ url j, CarriesAt h (b.client.get m.network url [h]).sent
        (b.client.beside m.network url [h] []) j →
      ∃ u, Url.parse url = .ok u ∧ StaysAt u (b.client.get m.network url [h]).sent j :=
  ⟨sent_of_own_header hmake hset hparse m args env p,
    fun _ _ => Http.Client.exists_staysAt_of_carriesAt hdrops⟩

/-! One download with a header of the operator's own, on machines whose network sends it to another
host: one with a client that drops what is guarded for good, and one with a client that goes by the
last redirect. -/

def headedConfig (raw : String) : Config where
  bootstrap := { configDir := .ofText "/d" }
  authHeader := some raw

def headedEnvironment : Environment :=
  .ofPairs [(Utf8.encode "CONFIG_URL_A", Utf8.encode "http://h/a")]

def headed (raw : String) (h : Header) : Bootstrap :=
  ⟨headedConfig raw, some h, [⟨"http://h/a", .ofText "/d/a.yaml", .config, "CONFIG_URL_A"⟩],
    ⟨Utf8.encode "bootfetch/0.1.0", 10, ⟨10, none⟩⟩⟩

def divertingMachine (carries : List Http.Hop → String → Bool) : Machine where
  network := {
    reply := fun _ r =>
      if r.url.hostText? = some "h" then
        .answered ⟨302, [("Location", Utf8.encode "http://g/a")], [], .whole⟩
      else .answered ⟨200, [], Utf8.encode "a: 1", .whole⟩
    carries }
  workingDir := []

def cookie : Header := ⟨"cookie", Utf8.encode "s", true⟩

abbrev cookieChain : List Http.Request :=
  ((headed "Cookie: s" cookie).client.get (divertingMachine Http.carriesForGood).network
    "http://h/a" [cookie]).sent

theorem prepare_confines_own_header_sample :
    cookieChain.map (·.url.hostText?) = [some "h", some "g"] ∧
      ¬ CarriesAt cookie cookieChain ((headed "Cookie: s" cookie).client.beside
        (divertingMachine Http.carriesForGood).network "http://h/a" [cookie] []) 1 := by
  have hmake : ((make (headedConfig "Cookie: s") headedEnvironment).run { files := .empty }).1 =
      .ok (headed "Cookie: s" cookie) := by
    decide +kernel
  have hparse : Header.parse "Cookie: s" = .ok cookie := by decide +kernel
  have hdrops : (divertingMachine Http.carriesForGood).network.DropsForGood cookie.name :=
    Http.Client.dropsForGood_of_guarded rfl rfl
  have hhosts : cookieChain.map (·.url.hostText?) = [some "h", some "g"] := by decide +kernel
  refine ⟨hhosts, fun hcarries => ?_⟩
  obtain ⟨u, hurl, hstays⟩ := (prepare_confines_own_header hmake rfl hparse
    (divertingMachine Http.carriesForGood) hdrops [] .empty { files := .empty }).2 "http://h/a" 1
      hcarries
  have hstart : (Url.parse "http://h/a").toOption.map (·.hostText?) = some (some "h") := by
    decide +kernel
  exact Http.Client.not_staysAt_of_hosts hstart hhosts (by decide) hurl hstays

def key : Header := ⟨"x-key", Utf8.encode "s", true⟩

/-- The hosts that are asked, each with whether it is shown the header. -/
def shownTo (carries : List Http.Hop → String → Bool) : List (Option String × Bool) :=
  (((headed "X-Key: s" key).prepare (divertingMachine carries) [] .empty).run
    { files := .empty }).2.sent.map fun r => (r.url.hostText?, r.headers.contains key)

/-- A header of a name that is not guarded is on the request to the other host as well. -/
theorem own_header_crosses_hosts :
    Header.parse "X-Key: s" = .ok key ∧
      ((make (headedConfig "X-Key: s") headedEnvironment).run { files := .empty }).1 =
        .ok (headed "X-Key: s" key) ∧
      shownTo Http.carriesForGood = [(some "h", true), (some "g", true)] ∧
      shownTo Http.carriesByLast = [(some "h", true), (some "g", true)] :=
  ⟨by decide +kernel, by decide +kernel, by decide +kernel, by decide +kernel⟩

end Prelaunch.Bootstrap
