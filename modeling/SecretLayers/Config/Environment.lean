import SecretLayers.Config.Validate
/-!
Configurations from environment variables.

A variable counts trimmed, and not at all if nothing is left of it. Only the default
context can be set to nothing. The first variable that cannot be read is reported; the
assembled configuration is validated at the end.
-/
namespace SecretLayers.Config

/-- The value of a variable, if it is set. -/
abbrev Lookup := String → Option String

/-- The trimmed value, if anything is left of it. -/
def Lookup.value? (lookup : Lookup) (name : String) : Option String :=
  (lookup name).bind Text.trimmed?

def unreadableVariable (name reason : String) : Error :=
  .configuration ("Invalid value for " ++ name ++ ": " ++ reason)

/-! ## Kinds of values -/

def readInteger (s : String) : Except String Nat :=
  (readNatural 10 maxUnsigned64 s.toList).mapError IntegerFault.message

def readFlag (s : String) : Except String Bool :=
  if s = "true" then .ok true
  else if s = "false" then .ok false
  else .error "provided string was not \x60true\x60 or \x60false\x60"

def readFraction (s : String) : Except String Binary64 :=
  match readDouble? s with
  | some x => .ok x
  | none => .error "invalid float literal"

def readMethod (s : String) : Except Error Auth.Method :=
  match Auth.Method.ofText? s with
  | some m => .ok m
  | none => .error (.configuration (Auth.Method.unknownMessage s))

/-- What a variable does to a configuration: nothing when it is unset, blank or of another
kind than the others. -/
abbrev Setting := Lookup → Config → Except Error Config

/-- A variable that replaces a text. -/
def setText (name : String) (set : String → Config → Config) : Setting := fun lookup c =>
  match lookup.value? name with
  | some s => .ok (set s c)
  | none => .ok c

/-- A variable that gives a text, or none. -/
def setOptional (name : String) (set : Option String → Config → Config) : Setting :=
  fun lookup c => .ok (set (lookup.value? name) c)

/-- A variable whose value has to be read. -/
def setRead {α : Type} (name : String) (read : String → Except String α)
    (set : α → Config → Config) : Setting := fun lookup c =>
  match lookup.value? name with
  | none => .ok c
  | some s =>
    match read s with
    | .ok a => .ok (set a c)
    | .error reason => .error (unreadableVariable name reason)

/-! ## The variables -/

def storeSettings : List Setting :=
  [setText "VAULT_ADDR" fun s c => { c with address := s },
    setOptional "VAULT_NAMESPACE" fun s c => { c with namespaceName := s },
    setOptional "VAULT_TOKEN" fun s c => { c with token := s.map Secret.mk },
    fun lookup c => match lookup.value? "VAULT_AUTHENTICATION" with
      | none => .ok c
      | some s => (readMethod s).map fun m => { c with authentication := m },
    setRead "VAULT_CONNECTION_TIMEOUT" readInteger fun n c => { c with connectionTimeout := n },
    setRead "VAULT_READ_TIMEOUT" readInteger fun n c => { c with readTimeout := n },
    setRead "VAULT_FAIL_FAST" readFlag fun b c => { c with failFast := b }]

def loginSettings : List Setting :=
  [setOptional "VAULT_APP_ROLE_ROLE_ID" fun s c => { c with appRole.roleId := s },
    setOptional "VAULT_APP_ROLE_SECRET_ID" fun s c => { c with appRole.secretId := s.map Secret.mk },
    setText "VAULT_APP_ROLE_PATH" fun s c => { c with appRole.path := s },
    setOptional "VAULT_APP_ID" fun s c => { c with appId.appId := s },
    setText "VAULT_APP_ID_PATH" fun s c => { c with appId.path := s },
    setText "VAULT_APP_ID_USER_ID" fun s c => { c with appId.userId := s },
    setOptional "VAULT_APP_ID_NETWORK_INTERFACE" fun s c => { c with appId.networkInterface := s },
    setOptional "VAULT_AWS_EC2_ROLE" fun s c => { c with awsEc2.role := s },
    setText "VAULT_AWS_EC2_PATH" fun s c => { c with awsEc2.path := s },
    setText "VAULT_AWS_EC2_IDENTITY_DOCUMENT" fun s c => { c with awsEc2.identityDocument := s },
    setOptional "VAULT_KUBERNETES_ROLE" fun s c => { c with kubernetes.role := s },
    setText "VAULT_KUBERNETES_PATH" fun s c => { c with kubernetes.path := s },
    setText "VAULT_KUBERNETES_TOKEN_FILE" fun s c => { c with kubernetes.tokenFile := s },
    setText "VAULT_CERT_PATH" fun s c => { c with cert.path := s }]

def genericSettings : List Setting :=
  [setRead "VAULT_GENERIC_ENABLED" readFlag fun b c => { c with generic.enabled := b },
    setText "VAULT_GENERIC_BACKEND" fun s c => { c with generic.backend := s },
    fun lookup c => match lookup "VAULT_GENERIC_DEFAULT_CONTEXT" with
      | none => .ok c
      | some s => .ok { c with generic.defaultContext := Text.trim s },
    setText "VAULT_GENERIC_PROFILE_SEPARATOR" fun s c => { c with generic.profileSeparator := s },
    setText "VAULT_APPLICATION_NAME" fun s c => { c with generic.applicationName := s }]

def renewalSettings : List Setting :=
  [setRead "VAULT_LIFECYCLE_ENABLED" readFlag fun b c => { c with lifecycle.enabled := b },
    setRead "VAULT_LIFECYCLE_POLL_INTERVAL" readInteger
      fun n c => { c with lifecycle.pollSeconds := n },
    setRead "VAULT_LIFECYCLE_EXPIRY_THRESHOLD" readFraction
      fun x c => { c with lifecycle.threshold := x },
    setRead "VAULT_LEASE_REFRESH_ENABLED" readFlag fun b c => { c with leaseRefresh.enabled := b }]

/-- All variables in the order in which they are read. -/
def settings : List Setting :=
  storeSettings ++ loginSettings ++ genericSettings ++ renewalSettings

/-- Lets settings act in turn, up to the first that fails. -/
def applyAll (lookup : Lookup) : List Setting → Config → Except Error Config
  | [], c => .ok c
  | set :: rest, c =>
    match set lookup c with
    | .ok c => applyAll lookup rest c
    | .error e => .error e

/-- The configuration that variables give, if it is accepted. -/
def ofVariables (lookup : Lookup) : Except Error Config :=
  match applyAll lookup settings {} with
  | .error e => .error e
  | .ok c => c.validate.map fun _ => c

end SecretLayers.Config
