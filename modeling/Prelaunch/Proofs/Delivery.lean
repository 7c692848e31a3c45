import Prelaunch.Proofs.Download
import Prelaunch.Proofs.Redirects
import Prelaunch.Proofs.Writing

/-!
What one download does. It succeeds if its URL leads, through no more redirects than are followed,
to a whole answer of success, and its path to a place for a file; then the file holds what came. Any
obstacle on either way makes it fail, and a failed download leaves every file as it was.
-/

namespace Prelaunch

/-! The way of a URL to its answer. -/

namespace Http

/-- What the client gets of an answer: nothing if answers of its kind have no body, and the body if
all of it has come in time. -/
inductive Response.Brings (r : Response) : Bytes → Prop where
  | bodyless (h : r.isBodyless = true) : Brings r []
  | whole (h : r.isBodyless = false) (hending : r.ending = .whole) : Brings r r.body

theorem Response.read_eq_ok {r : Response} {body : Bytes} : r.read = .ok body ↔ r.Brings body := by
  constructor
  · intro h
    unfold read at h
    split at h
    · rename_i hbodyless
      obtain rfl := Except.ok.inj h
      exact .bodyless hbodyless
    · rename_i hbodyless
      split at h
      · rename_i hending
        obtain rfl := Except.ok.inj h
        exact .whole (Bool.eq_false_iff.2 hbodyless) hending
      all_goals cases h
  · rintro (hbodyless | ⟨hbodyless, hending⟩)
    · simp [read, hbodyless]
    · simp [read, hbodyless, hending]

/-- The answer to a request sends the client on. -/
inductive SendsOn (net : Network) (patience : Patience) (r : Request) : Hop → Prop where
  | redirect {response target} (hreply : net.send patience r = .answered response)
      (htarget : net.target? r.url response = some target) :
      SendsOn net patience r ⟨response.status, r.url, target⟩

/-- A request leads to an answer that is the last one, through at most so many redirects. -/
inductive LeadsTo (net : Network) (patience : Patience) (first : Request) :
    Nat → List Hop → Request → Response → Prop where
  | answered {limit before r response} (hreply : net.send patience r = .answered response)
      (hlast : net.target? r.url response = none) : LeadsTo net patience first limit before r response
  | redirected {limit before r hop response} (hnext : SendsOn net patience r hop)
      (hfetchable : hop.target.isFetchable = true)
      (hrest : LeadsTo net patience first limit (hop :: before)
        (Client.redirected net first hop before) response) :
      LeadsTo net patience first (limit + 1) before r response

/-- A request leads to no last answer: on the way there is no connection, or no answer, or either
takes too long, or there is one redirect too many, or one to a URL that cannot be fetched. -/
inductive LeadsNowhere (net : Network) (patience : Patience) (first : Request) :
    Nat → List Hop → Request → Prop where
  | refused {limit before r} (hreply : net.send patience r = .refused) :
      LeadsNowhere net patience first limit before r
  | unconnected {limit before r} (hreply : net.send patience r = .unconnected) :
      LeadsNowhere net patience first limit before r
  | dropped {limit before r} (hreply : net.send patience r = .dropped) :
      LeadsNowhere net patience first limit before r
  | unanswered {limit before r} (hreply : net.send patience r = .unanswered) :
      LeadsNowhere net patience first limit before r
  | tooManyRedirects {before r hop} (hnext : SendsOn net patience r hop) :
      LeadsNowhere net patience first 0 before r
  | unsupported {limit before r hop} (hnext : SendsOn net patience r hop)
      (hfetchable : hop.target.isFetchable = false) :
      LeadsNowhere net patience first limit before r
  | redirected {limit before r hop} (hnext : SendsOn net patience r hop)
      (hfetchable : hop.target.isFetchable = true)
      (hrest : LeadsNowhere net patience first limit (hop :: before)
        (Client.redirected net first hop before)) :
      LeadsNowhere net patience first (limit + 1) before r

variable {net : Network} {patience : Patience} {first r : Request} {limit : Nat} {before : List Hop}
  {response response' : Response}

/-- One answer decides where a request leads, unless it is a redirect. -/
theorem decided_or_sendsOn (net : Network) (patience : Patience) (first : Request) (limit : Nat)
    (before : List Hop) (r : Request) :
    ((∃ response, LeadsTo net patience first limit before r response) ∨
      LeadsNowhere net patience first limit before r) ∨ ∃ hop, SendsOn net patience r hop := by
  cases hreply : net.send patience r with
  | refused => exact .inl (.inr (.refused hreply))
  | unconnected => exact .inl (.inr (.unconnected hreply))
  | dropped => exact .inl (.inr (.dropped hreply))
  | unanswered => exact .inl (.inr (.unanswered hreply))
  | answered response =>
      cases htarget : net.target? r.url response with
      | none => exact .inl (.inl ⟨response, .answered hreply htarget⟩)
      | some target => exact .inr ⟨_, .redirect hreply htarget⟩

theorem leadsTo_or_leadsNowhere (net : Network) (patience : Patience) (first : Request)
    (limit : Nat) (before : List Hop) (r : Request) :
    (∃ response, LeadsTo net patience first limit before r response) ∨
      LeadsNowhere net patience first limit before r := by
  induction limit generalizing before r with
  | zero =>
      obtain hdecided | ⟨hop, hnext⟩ := decided_or_sendsOn net patience first 0 before r
      · exact hdecided
      · exact .inr (.tooManyRedirects hnext)
  | succ limit ih =>
      obtain hdecided | ⟨hop, hnext⟩ := decided_or_sendsOn net patience first (limit + 1) before r
      · exact hdecided
      · cases hfetchable : hop.target.isFetchable with
        | false => exact .inr (.unsupported hnext hfetchable)
        | true =>
            refine (ih (hop :: before) _).imp ?_ (.redirected hnext hfetchable)
            rintro ⟨response, hrest⟩
            exact ⟨response, .redirected hnext hfetchable hrest⟩

namespace Client

/-- The client follows the way of a request. -/
theorem follow_of_leadsTo (h : LeadsTo net patience first limit before r response) :
    (follow net patience first limit before r).outcome = .ok response := by
  induction h with
  | answered hreply hlast =>
      unfold follow
      simp [hreply, hlast]
  | redirected hnext hfetchable _ ih =>
      obtain ⟨hreply, htarget⟩ := hnext
      unfold follow
      simpa [hreply, htarget, hfetchable] using ih

theorem follow_of_leadsNowhere (h : LeadsNowhere net patience first limit before r) :
    ∃ cause, (follow net patience first limit before r).outcome = .error cause := by
  induction h with
  | refused hreply | unconnected hreply | dropped hreply | unanswered hreply =>
      unfold follow
      simp [hreply]
  | tooManyRedirects hnext =>
      obtain ⟨hreply, htarget⟩ := hnext
      unfold follow
      simp [hreply, htarget]
  | @unsupported limit _ _ _ hnext hfetchable =>
      obtain ⟨hreply, htarget⟩ := hnext
      unfold follow
      cases limit <;> simp [hreply, htarget, hfetchable]
  | redirected hnext hfetchable _ ih =>
      obtain ⟨hreply, htarget⟩ := hnext
      unfold follow
      simpa [hreply, htarget, hfetchable] using ih

theorem outcome_follow_eq_ok :
    (follow net patience first limit before r).outcome = .ok response ↔
      LeadsTo net patience first limit before r response := by
  refine ⟨fun h => ?_, follow_of_leadsTo⟩
  obtain ⟨response', hway⟩ | hnowhere :=
    leadsTo_or_leadsNowhere net patience first limit before r
  · rw [follow_of_leadsTo hway] at h
    exact Except.ok.inj h ▸ hway
  · obtain ⟨cause, hcause⟩ := follow_of_leadsNowhere hnowhere
    rw [hcause] at h
    cases h

end Client

theorem LeadsTo.unique (h : LeadsTo net patience first limit before r response)
    (h' : LeadsTo net patience first limit before r response') : response = response' := by
  have hfollow := Client.follow_of_leadsTo h
  rw [Client.follow_of_leadsTo h'] at hfollow
  exact (Except.ok.inj hfollow).symm

theorem LeadsTo.not_leadsNowhere (h : LeadsTo net patience first limit before r response) :
    ¬ LeadsNowhere net patience first limit before r := by
  intro hnowhere
  obtain ⟨cause, hcause⟩ := Client.follow_of_leadsNowhere hnowhere
  rw [Client.follow_of_leadsTo h] at hcause
  cases hcause

end Http

/-! Places for files. -/

namespace FileTree

/-- Why there is no place for a file where a path leads. -/
inductive Blocks (t : FileTree) (cwd : Location) (p : Path) : Prop where
  | nulInPath (hnul : 0 ∈ p.bytes)
  | noParent {before : List Bytes} {name : Bytes} (hnames : p.names = before ++ [name])
      (hparent : t.isDirectoryAt (start cwd p) before = false)
  | noPlace {e : FileError} (hlocate : t.locate cwd p = .error e)
  | isDirectory {loc : Location} (hlocate : t.locate cwd p = .ok loc)
      (hdir : t.entry? loc = some .directory)
  | asksForDirectory (hend : p.endsInSeparator = true)

variable {t : FileTree} {cwd loc : Location} {p : Path}

theorem exists_takes_or_blocks (t : FileTree) (cwd : Location) (p : Path) :
    (∃ loc, t.Takes cwd p loc) ∨ t.Blocks cwd p := by
  cases hend : p.endsInSeparator with
  | true => exact .inr (.asksForDirectory hend)
  | false =>
      cases hlocate : t.locate cwd p with
      | error e => exact .inr (.noPlace hlocate)
      | ok loc =>
          by_cases hdir : t.entry? loc = some .directory
          · exact .inr (.isDirectory hlocate hdir)
          · exact .inl ⟨loc, hend, hlocate, hdir⟩

theorem Takes.not_blocks (h : t.Takes cwd p loc) : ¬ t.Blocks cwd p := by
  obtain ⟨hcheck, hwalk⟩ := (locate_eq_ok h.endsInSeparator).1 h.locate
  rintro (hnul | ⟨hnames, hparent⟩ | hlocate | ⟨hlocate, hdir⟩ | hend)
  · simp [checkPath, hnul] at hcheck
  · rw [hnames] at hwalk
    obtain ⟨parent, hbefore, hlast⟩ := walk_append_eq_ok.1 hwalk
    rw [isDirectoryAt_iff.2 ⟨parent, hbefore, (walk_cons_eq_ok.1 hlast).1⟩] at hparent
    cases hparent
  · rw [h.locate] at hlocate
    cases hlocate
  · obtain rfl := Except.ok.inj (h.locate.symm.trans hlocate)
    exact h.free hdir
  · rw [h.endsInSeparator] at hend
    cases hend

end FileTree

namespace Download

variable {m : Machine} {net : Http.Network} {client : Http.Client} {url : String} {path : Path}
  {header : Option Header} {t : FileTree} {loc : Location} {body : Bytes}

/-- A URL leads to an answer of its hosts, if it is asked for with a header. -/
def Reaches (net : Http.Network) (client : Http.Client) (header : Option Header) (u : Url)
    (response : Http.Response) : Prop :=
  Http.LeadsTo net client.patience (client.firstRequest u header.toList) client.maxRedirects []
    (client.firstRequest u header.toList) response

/-- The URL leads to an answer of success, and all of its content comes. -/
def Delivers (net : Http.Network) (client : Http.Client) (url : String) (header : Option Header)
    (body : Bytes) : Prop :=
  ∃ u response, Url.parse url = .ok u ∧ u.isFetchable = true ∧
    Reaches net client header u response ∧
    (200 ≤ response.status ∧ response.status < 300) ∧ response.Brings body

/-- Why no content comes from a URL. -/
inductive Withheld (net : Http.Network) (client : Http.Client) (url : String)
    (header : Option Header) : Prop where
  | unparsable {e : UrlError} (hurl : Url.parse url = .error e)
  | unsupported {u : Url} (hurl : Url.parse url = .ok u) (hfetchable : u.isFetchable = false)
  | leadsNowhere {u : Url} (hurl : Url.parse url = .ok u)
      (hway : Http.LeadsNowhere net client.patience (client.firstRequest u header.toList)
        client.maxRedirects [] (client.firstRequest u header.toList))
  | status {u : Url} {response : Http.Response} (hurl : Url.parse url = .ok u)
      (hway : Reaches net client header u response)
      (hstatus : ¬ (200 ≤ response.status ∧ response.status < 300))
  | unfinished {u : Url} {response : Http.Response} (hurl : Url.parse url = .ok u)
      (hway : Reaches net client header u response) (hbody : response.isBodyless = false)
      (hending : response.ending ≠ .whole)

theorem delivers_or_withheld (net : Http.Network) (client : Http.Client) (url : String)
    (header : Option Header) :
    (∃ body, Delivers net client url header body) ∨ Withheld net client url header := by
  cases hurl : Url.parse url with
  | error e => exact .inr (.unparsable hurl)
  | ok u =>
      cases hfetchable : u.isFetchable with
      | false => exact .inr (.unsupported hurl hfetchable)
      | true =>
          obtain ⟨r, hway⟩ | hway := Http.leadsTo_or_leadsNowhere net client.patience
            (client.firstRequest u header.toList) client.maxRedirects []
            (client.firstRequest u header.toList)
          · by_cases hstatus : 200 ≤ r.status ∧ r.status < 300
            · cases hbody : r.isBodyless with
              | true => exact .inl ⟨[], u, r, hurl, hfetchable, hway, hstatus, .bodyless hbody⟩
              | false =>
                  by_cases hending : r.ending = .whole
                  · exact .inl ⟨r.body, u, r, hurl, hfetchable, hway, hstatus,
                      .whole hbody hending⟩
                  · exact .inr (.unfinished hurl hway hbody hending)
            · exact .inr (.status hurl hway hstatus)
          · exact .inr (.leadsNowhere hurl hway)

theorem Delivers.not_withheld (h : Delivers net client url header body) :
    ¬ Withheld net client url header := by
  obtain ⟨u, r, hurl, hfetchable, hway, hstatus, hbody⟩ := h
  rintro (hurl' | ⟨hurl', hother⟩ | ⟨hurl', hnowhere⟩ | ⟨hurl', hway', hother⟩ |
    ⟨hurl', hway', hcontent, hending⟩) <;>
    cases hurl.symm.trans hurl'
  · rw [hfetchable] at hother
    cases hother
  · exact Http.LeadsTo.not_leadsNowhere hway hnowhere
  · obtain rfl := Http.LeadsTo.unique hway hway'
    exact hother hstatus
  · obtain rfl := Http.LeadsTo.unique hway hway'
    cases hbody with
    | bodyless hbodyless =>
        rw [hbodyless] at hcontent
        cases hcontent
    | whole _ hwhole => exact hending hwhole

theorem isSuccess_iff {r : Http.Response} :
    r.isSuccess = true ↔ 200 ≤ r.status ∧ r.status < 300 := by
  simp [Http.Response.isSuccess]

theorem outcome_get_eq_ok {r : Http.Response} :
    (client.get net url header.toList).outcome = .ok r ↔ ∃ u, Url.parse url = .ok u ∧
      u.isFetchable = true ∧ Reaches net client header u r := by
  unfold Http.Client.get
  cases Url.parse url with
  | error e => simp
  | ok u =>
      cases hfetchable : u.isFetchable with
      | false => simp [hfetchable]
      | true => simp [hfetchable, Http.Client.outcome_follow_eq_ok, Reaches]

theorem arrival_eq_ok :
    arrival net client url header = .ok body ↔ Delivers net client url header body := by
  have hdelivers : Delivers net client url header body ↔ ∃ r,
      (client.get net url header.toList).outcome = .ok r ∧ r.isSuccess = true ∧
        r.read = .ok body := by
    simp only [outcome_get_eq_ok, isSuccess_iff, Http.Response.read_eq_ok]
    constructor
    · rintro ⟨u, r, hurl, hfetchable, hway, hstatus, hbody⟩
      exact ⟨r, ⟨u, hurl, hfetchable, hway⟩, hstatus, hbody⟩
    · rintro ⟨r, ⟨u, hurl, hfetchable, hway⟩, hstatus, hbody⟩
      exact ⟨u, r, hurl, hfetchable, hway, hstatus, hbody⟩
  rw [hdelivers]
  unfold arrival
  cases (client.get net url header.toList).outcome with
  | error cause => simp
  | ok r =>
      cases hsuccess : r.isSuccess with
      | false => simp [hsuccess]
      | true => cases hread : r.read <;> simp [hsuccess, hread]

theorem url_ofFailure (url : String) (cause : Http.Failure) :
    (FetchError.ofFailure url cause).url = url := by
  unfold FetchError.ofFailure
  split
  · rfl
  · split <;> rfl

theorem url_of_arrival_eq_error {e : FetchError} (h : arrival net client url header = .error e) :
    e.url = url := by
  unfold arrival at h
  cases hreply : (client.get net url header.toList).outcome with
  | error cause =>
      rw [hreply] at h
      exact Except.error.inj h ▸ url_ofFailure url cause
  | ok r =>
      rw [hreply] at h
      cases hsuccess : r.isSuccess with
      | false =>
          simp only [hsuccess] at h
          exact Except.error.inj h ▸ rfl
      | true =>
          cases hread : r.read with
          | error cause =>
              simp only [hsuccess, hread] at h
              exact Except.error.inj h ▸ url_ofFailure url cause
          | ok body => simp [hsuccess, hread] at h

theorem url_of_outcome_eq_error {e : FetchError}
    (h : outcome m client url path header t = .error e) : e.url = url := by
  unfold outcome at h
  cases harrival : arrival m.network client url header with
  | error e' =>
      rw [harrival] at h
      exact Except.error.inj h ▸ url_of_arrival_eq_error harrival
  | ok body =>
      rw [harrival] at h
      cases hwrite : t.write m.workingDir path body with
      | error cause =>
          simp only [hwrite] at h
          exact Except.error.inj h ▸ rfl
      | ok t' => simp [hwrite] at h

/-! Whole downloads. -/

theorem result_fetch (m : Machine) (client : Http.Client) (url : String) (path : Path)
    (header : Option Header) (p : Progress) :
    ((fetch m client url path header).run p).1 =
      (outcome m client url path header p.files).map (·.1.length) := by
  obtain ⟨events, hrun⟩ := run_fetch m client url path header p
  rw [hrun]
  cases outcome m client url path header p.files <;> rfl

theorem fetch_eq_error_iff {e : FetchError} {p : Progress} :
    ((fetch m client url path header).run p).1 = .error e ↔
      outcome m client url path header p.files = .error e := by
  rw [result_fetch, map_eq_error]

theorem url_of_fetch_eq_error {e : FetchError} {p : Progress}
    (h : ((fetch m client url path header).run p).1 = .error e) : e.url = url :=
  url_of_outcome_eq_error (fetch_eq_error_iff.1 h)

theorem files_fetch (m : Machine) (client : Http.Client) (url : String) (path : Path)
    (header : Option Header) (p : Progress) :
    ((fetch m client url path header).run p).2.files =
      match outcome m client url path header p.files with
      | .ok (_, t) => t
      | .error _ => p.files := by
  obtain ⟨events, hrun⟩ := run_fetch m client url path header p
  rw [hrun]
  cases outcome m client url path header p.files <;> rfl

/-- What is brought to a place replaces what is there. -/
theorem outcome_of_delivers (hbody : Delivers m.network client url header body)
    (hloc : t.Takes m.workingDir path loc) :
    outcome m client url path header t = .ok (body, t.fill (loc, body)) :=
  outcome_eq_ok.2 ⟨arrival_eq_ok.2 hbody, FileTree.write_eq_ok_iff.2 ⟨loc, hloc, rfl⟩⟩

theorem outcome_eq_ok_iff {t' : FileTree} :
    outcome m client url path header t = .ok (body, t') ↔
      Delivers m.network client url header body ∧
        ∃ loc, t.Takes m.workingDir path loc ∧ t' = t.fill (loc, body) := by
  rw [outcome_eq_ok, arrival_eq_ok, FileTree.write_eq_ok_iff]

theorem outcome_eq_error_iff :
    (∃ e, outcome m client url path header t = .error e) ↔
      Withheld m.network client url header ∨ t.Blocks m.workingDir path := by
  constructor
  · rintro ⟨e, he⟩
    obtain ⟨body, hbody⟩ | hwithheld := delivers_or_withheld m.network client url header
    · obtain ⟨loc, hloc⟩ | hblocks := t.exists_takes_or_blocks m.workingDir path
      · rw [outcome_of_delivers hbody hloc] at he
        cases he
      · exact .inr hblocks
    · exact .inl hwithheld
  · intro hthwarted
    cases houtcome : outcome m client url path header t with
    | error e => exact ⟨e, rfl⟩
    | ok arrived =>
        obtain ⟨hbody, loc, hloc, -⟩ := outcome_eq_ok_iff.1 houtcome
        exact absurd hthwarted (not_or.2 ⟨hbody.not_withheld, hloc.not_blocks⟩)

/-- A download succeeds exactly if its URL delivers a content and its path leads to a place for a
file. It gives the length of that content, the file is then the content, and all other files are as
they were. It fails exactly if no content comes or the path is blocked, with an error that names its
URL, and all files are as they were, an older one at the path among them. -/
theorem fetch_is_all_or_nothing (m : Machine) (client : Http.Client) (url : String) (path : Path)
    (header : Option Header) (p : Progress) :
    (∀ n, ((fetch m client url path header).run p).1 = .ok n ↔
      ∃ body loc, Delivers m.network client url header body ∧
        p.files.Takes m.workingDir path loc ∧ n = body.length) ∧
    (∀ body loc, Delivers m.network client url header body →
      p.files.Takes m.workingDir path loc →
      ((fetch m client url path header).run p).2.files.read? m.workingDir path = some body ∧
        ∀ other, other ≠ loc → ((fetch m client url path header).run p).2.files.entry? other =
          p.files.entry? other) ∧
    ((∃ e, ((fetch m client url path header).run p).1 = .error e) ↔
      Withheld m.network client url header ∨ p.files.Blocks m.workingDir path) ∧
    ∀ e, ((fetch m client url path header).run p).1 = .error e →
      e.url = url ∧ ((fetch m client url path header).run p).2.files = p.files := by
  refine ⟨fun n => ?_, fun body loc hbody hloc => ?_, ?_, fun e he => ?_⟩
  · rw [result_fetch, map_eq_ok]
    constructor
    · rintro ⟨arrived, houtcome, rfl⟩
      obtain ⟨hbody, loc, hloc, -⟩ := outcome_eq_ok_iff.1 houtcome
      exact ⟨arrived.1, loc, hbody, hloc, rfl⟩
    · rintro ⟨body, loc, hbody, hloc, rfl⟩
      exact ⟨_, outcome_of_delivers hbody hloc, rfl⟩
  · rw [files_fetch, outcome_of_delivers hbody hloc]
    have hwrite : p.files.write m.workingDir path body = .ok (p.files.fill (loc, body)) :=
      FileTree.write_eq_ok_iff.2 ⟨loc, hloc, rfl⟩
    obtain ⟨loc', hlocate, -, hread, hframe⟩ := FileTree.write_spec hloc.endsInSeparator hwrite
    obtain rfl := Except.ok.inj (hloc.locate.symm.trans hlocate)
    exact ⟨hread, hframe⟩
  · simp only [fetch_eq_error_iff, outcome_eq_error_iff]
  · rw [files_fetch, fetch_eq_error_iff.1 he]
    exact ⟨url_of_fetch_eq_error he, rfl⟩

/-! A URL whose answer sends the client on, and one whose body breaks off. -/

def relayingMachine : Machine where
  network.reply _ r :=
    if r.url.hostText? = some "a" then
      .answered ⟨302, [("Location", Utf8.encode "http://b/y")], [], .whole⟩
    else .answered ⟨200, [], Utf8.encode "new", if r.url.hostText? = some "b" then .whole else .late⟩
  workingDir := []

def briefClient : Http.Client := ⟨[], 1, ⟨10, some 1⟩⟩

def olderFile : FileTree :=
  FileTree.empty.put [Utf8.encode "f"] (.file (Utf8.encode "old") false)

theorem fetch_is_all_or_nothing_sample :
    Delivers relayingMachine.network briefClient "http://a/x" none (Utf8.encode "new") ∧
      olderFile.Takes [] (.ofText "/f") [Utf8.encode "f"] ∧
      ((fetch relayingMachine briefClient "http://a/x" (.ofText "/f") none).run
        ⟨olderFile, [], []⟩).2.files.read? [] (.ofText "/f") = some (Utf8.encode "new") ∧
      ((fetch relayingMachine briefClient "http://c/z" (.ofText "/f") none).run
        ⟨olderFile, [], []⟩).1 = .error (.timeout "http://c/z") ∧
      ((fetch relayingMachine briefClient "http://c/z" (.ofText "/f") none).run
        ⟨olderFile, [], []⟩).2.files = olderFile := by
  have hbody : Delivers relayingMachine.network briefClient "http://a/x" none
      (Utf8.encode "new") := by
    have harrival : arrival relayingMachine.network briefClient "http://a/x" none =
        .ok (Utf8.encode "new") := by
      decide +kernel
    exact arrival_eq_ok.1 harrival
  have hloc : olderFile.Takes [] (.ofText "/f") [Utf8.encode "f"] :=
    ⟨by decide +kernel, by decide +kernel, by decide +kernel⟩
  have hfails : ((fetch relayingMachine briefClient "http://c/z" (.ofText "/f") none).run
      ⟨olderFile, [], []⟩).1 = .error (.timeout "http://c/z") := by
    decide +kernel
  exact ⟨hbody, hloc,
    ((fetch_is_all_or_nothing relayingMachine briefClient "http://a/x" (.ofText "/f") none
      ⟨olderFile, [], []⟩).2.1 _ _ hbody hloc).1, hfails,
    ((fetch_is_all_or_nothing relayingMachine briefClient "http://c/z" (.ofText "/f") none
      ⟨olderFile, [], []⟩).2.2.2 _ hfails).2⟩

end Download

end Prelaunch
