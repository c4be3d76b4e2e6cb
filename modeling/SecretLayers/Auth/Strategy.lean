import SecretLayers.Auth.UserId
import SecretLayers.Store.Client
/-!
Logging in.

A strategy is a method with all the settings it needs. Credentials are checked before
they are sent: those of the configuration when the strategy is made, those of the machine
at each login.
-/
namespace SecretLayers.Auth

/-- What a login can learn from the machine it runs on. -/
structure Machine where
  files : Files
  /-- The address of the machine in its network. -/
  hostAddress : String

/-- Where the token of a service account comes from. -/
inductive JwtSource where
  | file (path : String)
  | given (jwt : Except Error String)

namespace JwtSource

def unreadableFile (path : String) (fault : FileFault) : Error :=
  .validation ("Cannot read service account token from " ++ path ++ ": " ++ fault.message)

def jwt (files : Files) : JwtSource → Except Error String
  | given jwt => jwt
  | file path =>
    match files.read path with
    | .ok text => .ok (Text.trim text)
    | .error fault => .error (unreadableFile path fault)

end JwtSource

inductive Strategy where
  | token (secret : Secret)
  | appRole (roleId : String) (secretId : Option Secret) (path : String)
  | appId (appId path : String) (userId : UserId)
  | certificate (path : String)
  | awsEc2 (role : Option String) (path identityDocument nonce : String)
  | kubernetes (role path : String) (jwt : JwtSource)
  /-- A token to unwrap, and whether that has been done. -/
  | cubbyhole (wrapping : Secret) (unwrapped : Bool)

namespace Strategy

def method : Strategy → Method
  | token _ => .token
  | appRole .. => .approle
  | appId .. => .appid
  | certificate _ => .cert
  | awsEc2 .. => .awsEc2
  | kubernetes .. => .kubernetes
  | cubbyhole .. => .cubbyhole

/-! ## Making a strategy -/

def emptyRoleMessage : String := "Role (vault.kubernetes.role) must not be empty"

def missingToken (method : Method) : Error :=
  .configuration ("Token (vault.token) is required for " ++ method.name ++ " authentication")

def emptyToken : Error := .configuration "Token (vault.token) must not be empty"

def emptyWrappingToken : Error :=
  .configuration "Wrapping token (vault.token) must not be empty for cubbyhole authentication"

def emptyRoleId : Error := .configuration "RoleId (vault.app_role.role_id) must not be empty"

def emptyAppId : Error :=
  .configuration "AppId (vault.app_id.app_id or application name) must not be empty"

def emptyUserId : Error := .configuration "UserId (vault.app_id.user_id) must not be empty"

def emptyIdentityDocument : Error :=
  .configuration "Identity document URL (vault.aws_ec2.identity_document) must not be empty"

/-- A setting that must hold more than blanks, trimmed. -/
def demand (e : Error) (s : Option String) : Except Error String :=
  match s.bind Text.trimmed? with
  | some s => .ok s
  | none => .error e

/-- A secret that must hold more than blanks, as it is. -/
def demandSecret (missing empty : Error) : Option Secret → Except Error Secret
  | none => .error missing
  | some s => if s.isEmpty then .error empty else .ok s

def ofAppId (c : Config.AppId) (applicationName : String) : Except Error Strategy := do
  let id ← demand emptyAppId (some (c.appId.getD applicationName))
  let _ ← demand emptyUserId (some c.userId)
  .ok (appId id (Text.trimSlashes c.path) (.ofSettings c))

/-- A service account of a role; the role is checked at each login. -/
def ofServiceAccount (role path : String) (jwt : JwtSource) : Strategy :=
  kubernetes (Text.trim role) (Text.trimSlashes path) jwt

/-- The strategy a configuration asks for. The nonce identifies it to the store. -/
def ofConfig (c : Config) (nonce : String) : Except Error Strategy :=
  match c.authentication with
  | .token => (demandSecret (missingToken .token) emptyToken c.token).map token
  | .approle => (demand emptyRoleId c.appRole.roleId).map fun roleId =>
    appRole roleId (c.appRole.secretId.filter fun s => !s.isEmpty) (Text.trimSlashes c.appRole.path)
  | .appid => ofAppId c.appId c.generic.applicationName
  | .cert => .ok (certificate (Text.trimSlashes c.cert.path))
  | .awsEc2 => (demand emptyIdentityDocument (some c.awsEc2.identityDocument)).map fun document =>
    awsEc2 (c.awsEc2.role.bind Text.trimmed?) (Text.trimSlashes c.awsEc2.path) document nonce
  | .kubernetes => (demand (.configuration emptyRoleMessage) c.kubernetes.role).map fun role =>
    ofServiceAccount role c.kubernetes.path (.file c.kubernetes.tokenFile)
  | .cubbyhole => (demandSecret (missingToken .cubbyhole) emptyWrappingToken c.token).map fun s =>
    cubbyhole s false

/-- How a service account is shown in diagnostics. -/
def shownServiceAccount (role path : String) : String :=
  "KubernetesAuthentication \x7b role: " ++ Text.quoted role ++ ", path: " ++ Text.quoted path ++
    ", .. \x7d"

/-! ## Logging in -/

def loginPath (path : String) : String := "auth/" ++ path ++ "/login"

/-- An object of texts. -/
def credentials (fields : List (String × String)) : Option Json :=
  some (.ofMembers (fields.map fun (name, s) => (name, .string s)))

def noIdentityDocument (e : Error) : Error :=
  .authentication ("Cannot obtain Identity Document: " ++ e.message)

def alreadyUnwrapped : Error :=
  .authentication "Cannot login using Cubbyhole: wrapping token was already unwrapped"

def emptyRole : Error := .validation emptyRoleMessage

def emptyJwt : Error := .validation "Service account JWT must not be empty"

/-- The identity document on one line. -/
def joined (document : String) : String :=
  String.ofList (document.toList.filter fun c => c ≠ '\n' ∧ c ≠ '\r')

def refuse (e : Error) : Dialogue (Except Error Token) := .done (.error e)

def loginAwsEc2 (client : Store.Client) (role : Option String) (path document nonce : String) :
    Dialogue (Except Error Token) :=
  (Store.Client.fetch document).bind fun
    | .error e => refuse (noIdentityDocument e)
    | .ok text =>
      let role := (role.map fun r => ("role", r)).toList
      client.login "AWS-EC2" (loginPath path)
        (credentials (role ++ [("pkcs7", joined text), ("nonce", nonce)])) none

def loginKubernetes (client : Store.Client) (files : Files) (role path : String)
    (source : JwtSource) : Dialogue (Except Error Token) :=
  if role = "" then refuse emptyRole
  else match source.jwt files with
    | .error e => refuse e
    | .ok jwt =>
      if Text.isBlankText jwt then refuse emptyJwt
      else client.login "Kubernetes" (loginPath path) (credentials [("role", role), ("jwt", jwt)]) none

/-- A login at an instant. -/
def login (client : Store.Client) (machine : Machine) (now : Instant) :
    Strategy → Dialogue (Except Error Token)
  | token secret => .done (.ok (.fixed secret.exposed now))
  | appRole roleId secretId path =>
    let secret := (secretId.map fun s => ("secret_id", s.exposed)).toList
    client.login "AppRole" (loginPath path) (credentials (("role_id", roleId) :: secret)) none
  | appId id path userId =>
    match userId.create machine.files machine.hostAddress with
    | .error e => refuse e
    | .ok user =>
      client.login "AppId" (loginPath path) (credentials [("app_id", id), ("user_id", user)]) none
  | certificate path => client.login "TLS Certificates" (loginPath path) none none
  | awsEc2 role path document nonce => loginAwsEc2 client role path document nonce
  | kubernetes role path source => loginKubernetes client machine.files role path source
  | cubbyhole wrapping unwrapped =>
    if unwrapped then refuse alreadyUnwrapped
    else client.login "Cubbyhole" "sys/wrapping/unwrap" none (some wrapping.exposed)

/-- The strategy after a login: a token that was unwrapped cannot be again. -/
def after (s : Strategy) (result : Except Error Token) : Strategy :=
  match s, result with
  | cubbyhole wrapping _, .ok _ => cubbyhole wrapping true
  | s, _ => s

end Strategy
end SecretLayers.Auth
