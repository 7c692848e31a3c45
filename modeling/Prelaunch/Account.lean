import Prelaunch.Action
import Prelaunch.Credential
import Prelaunch.Json.Basic
import Prelaunch.Text.Quoted

/-!
The exchange of a key pair for the token of a storage account. The answer names the token and the
URL from which the account's files are downloaded, either at the top or within two other objects.
-/

namespace Prelaunch

/-- What the provider grants to the holder of a key pair. -/
structure Grant where
  token : String
  downloadBase : Option String
  deriving DecidableEq, Repr

inductive AuthorizationError where
  | request (url : String) (cause : Http.Failure)
  | status (url : String) (code : Nat)
  | unreadable (url complaint : String)
  | missingToken (url : String)
  | invalidToken (cause : HeaderError)
  deriving DecidableEq, Repr

def AuthorizationError.message : AuthorizationError → String
  | .request url cause => "authorization request to " ++ url ++ " failed: " ++ cause.message
  | .status url code => "authorization rejected by " ++ url ++ ": HTTP " ++ Nat.repr code
  | .unreadable url complaint =>
    "authorization response from " ++ url ++ " is not valid JSON: " ++ complaint
  | .missingToken url => "authorization response from " ++ url ++ " has no authorizationToken"
  | .invalidToken cause =>
    "authorization token is not a usable header value: " ++ cause.message

namespace Grant

/-- The domain of the provider, below which all its download hosts are. -/
def providerDomain : String := "backblazeb2.com"

/-- The scheme that attaches the token to the provider's URLs. -/
def scheme (g : Grant) : Except AuthorizationError ProviderScheme :=
  match Header.authorization g.token with
  | .ok header => .ok (.make header g.downloadBase providerDomain)
  | .error cause => .error (.invalidToken cause)

/-- The grant as shown to people, without the token. -/
def shown (g : Grant) : String :=
  let base := match g.downloadBase with
    | some url => "Some(" ++ Text.quoted url ++ ")"
    | none => "None"
  "AuthorizationResult \x7b token: \"<redacted>\", download_base_url: " ++ base ++ " \x7d"

/-! Reading an answer. -/

/-- The members of an object with their names as texts. -/
def named? (members : List (Bytes × Json)) : Option (List (String × Json)) :=
  members.mapM fun m => (Json.text? m.1).map (·, m.2)

/-- The values of some fields, `null` for one that is left out. A list gives them in order. No field
may be given twice. -/
def fields? (names : List String) : Json → Option (List Json)
  | .object members => do
    let named ← named? members
    guard (names.all fun name => (named.map (·.1)).count name ≤ 1)
    return names.map fun name => (named.lookup name).getD .null
  | .array items => if items.length == names.length then some items else none
  | _ => none

def optionalText? : Json → Option (Option String)
  | .null => some none
  | .text raw => (Json.text? raw).map some
  | _ => none

/-- A field of an object that may be left out, under some name within it. -/
def within? {α : Type} (name : String) (read : Json → Option (Option α)) :
    Json → Option (Option α)
  | .null => some none
  | v => do
    match ← fields? [name] v with
    | [inner] => read inner
    | _ => none

/-- What an answer says: the token, the URL at the top, and the URL further in. -/
structure Answer where
  token : Option String
  outerUrl : Option String
  innerUrl : Option String
  deriving DecidableEq, Repr

def Answer.ofJson? (v : Json) : Option Answer := do
  match ← fields? ["authorizationToken", "downloadUrl", "apiInfo"] v with
  | [token, url, info] =>
    return ⟨← optionalText? token, ← optionalText? url,
      ← within? "storageApi" (within? "downloadUrl" optionalText?) info⟩
  | _ => none

/-- The URL at the top counts wherever there is one, even an empty one. -/
def ofAnswer? (a : Answer) : Option Grant :=
  (a.token.filter (!·.isEmpty)).map fun token =>
    ⟨token, (a.outerUrl.or a.innerUrl).filter (!·.isEmpty)⟩

/-- What is wrong with a body that is no answer is said in the words of other code. -/
def read (complaint : Bytes → String) (url : String) (body : Bytes) :
    Except AuthorizationError Grant :=
  match (Json.parse? body).bind Answer.ofJson? with
  | none => .error (.unreadable url (complaint body))
  | some answer => match ofAnswer? answer with
    | none => .error (.missingToken url)
    | some grant => .ok grant

end Grant

/-- Asks for a grant once. -/
def authorize (m : Machine) (client : Http.Client) (url keyId applicationKey : String) :
    Action AuthorizationError Grant := do
  Action.tell .debug "Authorizing Backblaze account" [("url", url)]
  let proof := Http.basicHeader (Utf8.encode keyId) (Utf8.encode applicationKey)
  let response ← (Action.request m client url [proof]).within (.request url)
  if !response.isSuccess then throw (.status url response.status)
  let body ← Action.orFail (.request url) response.read
  let grant ← Action.orFail id (Grant.read m.answerComplaint url body)
  Action.tell .info "Backblaze authorization succeeded"
    [("download_base_url", grant.downloadBase.getD "<none>")]
  return grant

end Prelaunch
