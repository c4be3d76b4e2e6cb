import SecretLayers.Store.Request
import SecretLayers.Store.Response
import SecretLayers.Text.Quoted
/-!
The client of a store.

Every path is read relative to the base of the interface, which stands behind the path of
the store's address. What an answer means is decided by its status first, and by its body
only where the status leaves that open. A body that is not what it should be is reported as
malformed; what the reader of the document found wrong with it is no part of the message.
-/
namespace SecretLayers.Store

structure Client where
  base : Url
  namespaceName : Option String

namespace Client

def invalidAddress (address : String) (fault : Url.Fault) : Error :=
  .configuration ("Invalid secret store address '" ++ address ++ "': " ++ fault.message)

def unsupportedScheme (scheme : List Char) : Error :=
  .configuration ("Secret store address must use http or https, got '" ++ String.ofList scheme ++ "'")

/-- The path of the interface behind that of an address. -/
def basePath (path : Url.Path) : Url.Path :=
  let segments := match path with
    | .segments list => if list.getLast? = some [] then list.dropLast else list
    | .whole _ => []
  .segments (segments ++ ["v1".toList, []])

/-- The client for an address. An empty namespace is none. -/
def ofAddress (address : String) (namespaceName : Option String) : Except Error Client :=
  match Url.parse none address with
  | .error fault => .error (invalidAddress address fault)
  | .ok url =>
    if !Url.isHttp url.scheme then .error (unsupportedScheme url.scheme)
    else
      .ok
        { base := { url with path := basePath url.path, query := none, fragment := none }
          namespaceName := namespaceName.filter (· ≠ "") }

/-- How a client is shown in diagnostics. -/
def shown (c : Client) : String :=
  "VaultClient \x7b base: " ++ Text.quoted c.base.render ++ ", namespace: " ++
    Text.quotedOption c.namespaceName ++ " \x7d"

def invalidPath (path : String) (fault : Url.Fault) : Error :=
  .validation ("Invalid secret path '" ++ path ++ "': " ++ fault.message)

/-- The address of a path. -/
def url (c : Client) (path : String) : Except Error Url :=
  match Url.parse (some c.base) (Text.dropSlashes path) with
  | .error fault => .error (invalidPath path fault)
  | .ok url => .ok url

/-! ## Sending -/

/-- Whether a text can be the value of a header. -/
def isHeaderValue (s : String) : Bool :=
  s.toList.all fun c => c == '\t' || (0x20 ≤ c.toNat && c.toNat ≠ 0x7F)

/-- Characters that a host name may have, but not one that is sent to. -/
def isUnsendable (c : Char) : Bool := "\"\x60\x7b\x7d".toList.contains c

def hasSendableHost (url : Url) : Bool :=
  match url.authority with
  | some { host := some (.name text), .. } => !text.any isUnsendable
  | _ => true

/-- What keeps a request from being formed, if anything does. -/
def formFault? (r : Request) : Option NetworkFault :=
  let url := r.url.withoutCredentials.render
  if !((r.token.toList ++ r.namespaceName.toList).all isHeaderValue) then some .badHeader
  else if !Url.isHttp r.url.scheme then some (.badScheme url)
  else if !hasSendableHost r.url then some (.badHost url)
  else none

/-- Sends a request, if it can be formed, and goes on with the answer to it. -/
def exchange {α : Type} (r : Request) (next : Answer → Instant → Except Error α) :
    Dialogue (Except Error α) :=
  match formFault? r with
  | some fault => .done (.error fault.error)
  | none => .send r fun arrival => .done <| match arrival.outcome with
    | .error fault => .error fault.error
    | .ok answer => next answer arrival.instant

/-- Calls the interface at a path. -/
def call {α : Type} (c : Client) (verb : Verb) (path : String) (token : Option String)
    (body : Option Json) (next : Answer → Instant → Except Error α) :
    Dialogue (Except Error α) :=
  match c.url path with
  | .error e => .done (.error e)
  | .ok url => exchange { verb, url, token, namespaceName := c.namespaceName, body } next

/-! ## Logins -/

def loginRejected (method reason : String) : Error :=
  .authentication ("Cannot login using " ++ method ++ ": " ++ reason)

/-- The token that the answer to a login grants. That a document is malformed is said without the
reason of its reader. -/
def grantedToken (method : String) (a : Answer) (now : Instant) : Except Error Token :=
  if !a.isSuccess then .error (loginRejected method (errorMessage a.body))
  else match Response.parse? a.body with
    | none => .error (loginRejected method "malformed response")
    | some r => match r.grant with
      | none => .error (loginRejected method "response has no auth block")
      | some g => g.token now

/-- A login. A wrapping token stands in the place of the session token. -/
def login (c : Client) (method path : String) (body : Option Json) (wrapping : Option String) :
    Dialogue (Except Error Token) :=
  c.call .post path wrapping body (grantedToken method)

/-! ## Secrets -/

def accessDenied (path reason : String) : Error :=
  .authentication ("Access to '" ++ path ++ "' denied: " ++ reason)

/-- What the answer to a read or a write brings; nothing where nothing is found. A malformed document
is reported with the path and the status, and without the reason of its reader. -/
def readingOf (path : String) (a : Answer) : Except Error (Option Reading) :=
  if a.status = 404 ∨ a.status = 204 then .ok none
  else if a.status = 401 ∨ a.status = 403 then .error (accessDenied path (errorMessage a.body))
  else if a.isSuccess then
    match Response.parse? a.body with
    | none => .error (.backend path a.status "malformed response")
    | some r => .ok (some (.ofResponse r))
  else .error (.backend path a.status (errorMessage a.body))

def read (c : Client) (path : String) (token : Token) : Dialogue (Except Error (Option Reading)) :=
  c.call .get path (some token.text) none fun a _ => readingOf path a

def write (c : Client) (path : String) (token : Token) (body : Json) :
    Dialogue (Except Error (Option Reading)) :=
  c.call .post path (some token.text) (some body) fun a _ => readingOf path a

/-! ## Other documents -/

def fetchRejected (address : String) (status : Nat) : Error :=
  .transport ("GET " ++ address ++ " returned " ++ toString status) []

/-- The text of a document outside of the interface. -/
def fetch (address : String) : Dialogue (Except Error String) :=
  match Url.parse none address with
  | .error fault => .done (.error (NetworkFault.badAddress fault.message).error)
  | .ok url => exchange { verb := .get, url } fun a _ =>
    if a.isSuccess then .ok a.body else .error (fetchRejected address a.status)

def healthPath : String := "sys/health"

/-- The health of the store, whatever the status it is reported with. As with readings, nothing is
said about where a document is malformed. -/
def health (c : Client) : Dialogue (Except Error Health) :=
  c.call .get healthPath none none fun a _ =>
    match Health.parse? a.body with
    | some h => .ok h
    | none => .error (.backend healthPath a.status "malformed health response")

/-! ## Tokens -/

def renewRejected (reason : String) : Error := .authentication ("Cannot renew token: " ++ reason)

/-- The token with the lease that the answer to a renewal grants. -/
def renewedToken (token : Token) (a : Answer) (now : Instant) : Except Error Token :=
  if !a.isSuccess then .error (renewRejected (errorMessage a.body))
  else match Response.parse? a.body with
    | none => .error NetworkFault.undecodable.error
    | some r => match r.grant with
      | none => .error (renewRejected "response has no auth block")
      | some g => .ok (g.renew token now)

def renew (c : Client) (token : Token) : Dialogue (Except Error Token) :=
  c.call .post "auth/token/renew-self" (some token.text) (some (.object [])) (renewedToken token)

def revokeRejected (reason : String) : Error := .authentication ("Cannot revoke token: " ++ reason)

def revoke (c : Client) (token : Token) : Dialogue (Except Error Unit) :=
  c.call .post "auth/token/revoke-self" (some token.text) none fun a _ =>
    if a.isSuccess then .ok () else .error (revokeRejected (errorMessage a.body))

end Client
end SecretLayers.Store
