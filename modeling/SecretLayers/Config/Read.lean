import SecretLayers.Config.Basic
/-!
Reading configurations from documents.

Every field may be left out, and takes its default then.
-/
namespace SecretLayers.Config

open Document

variable {ν : Type} [Document ν]

def AppRole.read? (v : ν) : Option AppRole := do
  let fs ← fields? ["role_id", "secret_id", "path"] v
  let d : AppRole := {}
  let roleId ← fs.withDefault d.roleId (optional text?) "role_id"
  let secretId ← fs.withDefault d.secretId (optional fun v => (text? v).map Secret.mk) "secret_id"
  let path ← fs.withDefault d.path text? "path"
  some { roleId, secretId, path }

def AppId.read? (v : ν) : Option AppId := do
  let fs ← fields? ["app_id", "app_id_path", "user_id", "network_interface"] v
  let d : AppId := {}
  let appId ← fs.withDefault d.appId (optional text?) "app_id"
  let path ← fs.withDefault d.path text? "app_id_path"
  let userId ← fs.withDefault d.userId text? "user_id"
  let networkInterface ← fs.withDefault d.networkInterface (optional text?) "network_interface"
  some { appId, path, userId, networkInterface }

def AwsEc2.read? (v : ν) : Option AwsEc2 := do
  let fs ← fields? ["role", "path", "identity_document"] v
  let d : AwsEc2 := {}
  let role ← fs.withDefault d.role (optional text?) "role"
  let path ← fs.withDefault d.path text? "path"
  let identityDocument ← fs.withDefault d.identityDocument text? "identity_document"
  some { role, path, identityDocument }

def Kubernetes.read? (v : ν) : Option Kubernetes := do
  let fs ← fields? ["role", "path", "service_account_token_file"] v
  let d : Kubernetes := {}
  let role ← fs.withDefault d.role (optional text?) "role"
  let path ← fs.withDefault d.path text? "path"
  let tokenFile ← fs.withDefault d.tokenFile text? "service_account_token_file"
  some { role, path, tokenFile }

def Cert.read? (v : ν) : Option Cert := do
  let fs ← fields? ["path"] v
  let path ← fs.withDefault ({} : Cert).path text? "path"
  some { path }

def Generic.read? (v : ν) : Option Generic := do
  let fs ← fields?
    ["enabled", "backend", "default_context", "profile_separator", "application_name"] v
  let d : Generic := {}
  let enabled ← fs.withDefault d.enabled flag? "enabled"
  let backend ← fs.withDefault d.backend text? "backend"
  let defaultContext ← fs.withDefault d.defaultContext text? "default_context"
  let profileSeparator ← fs.withDefault d.profileSeparator text? "profile_separator"
  let applicationName ← fs.withDefault d.applicationName text? "application_name"
  some { enabled, backend, defaultContext, profileSeparator, applicationName }

/-- The fields of a configuration, in the order in which a list gives them. -/
def fieldNames : List String :=
  ["address", "namespace", "connection_timeout_seconds", "read_timeout_seconds",
    "authentication", "token", "app_role", "app_id", "aws_ec2", "kubernetes", "cert",
    "generic", "backends", "lifecycle", "lease_refresh", "fail_fast"]

def read? (v : ν) : Option Config := do
  let fs ← fields? fieldNames v
  let d : Config := {}
  let address ← fs.withDefault d.address text? "address"
  let namespaceName ← fs.withDefault d.namespaceName (optional text?) "namespace"
  let connectionTimeout ← fs.withDefault d.connectionTimeout natural? "connection_timeout_seconds"
  let readTimeout ← fs.withDefault d.readTimeout natural? "read_timeout_seconds"
  let authentication ← fs.withDefault d.authentication (oneOf Auth.Method.spellings) "authentication"
  let token ← fs.withDefault d.token (optional fun v => (text? v).map Secret.mk) "token"
  let appRole ← fs.withDefault d.appRole AppRole.read? "app_role"
  let appId ← fs.withDefault d.appId AppId.read? "app_id"
  let awsEc2 ← fs.withDefault d.awsEc2 AwsEc2.read? "aws_ec2"
  let kubernetes ← fs.withDefault d.kubernetes Kubernetes.read? "kubernetes"
  let cert ← fs.withDefault d.cert Cert.read? "cert"
  let generic ← fs.withDefault d.generic Generic.read? "generic"
  let backends ← fs.withDefault d.backends (listOf Backend.Descriptor.read?) "backends"
  let lifecycle ← fs.withDefault d.lifecycle (RenewalOptions.read? {}) "lifecycle"
  let leaseRefresh ← fs.withDefault d.leaseRefresh (RenewalOptions.read? {}) "lease_refresh"
  let failFast ← fs.withDefault d.failFast flag? "fail_fast"
  some
    { address, namespaceName, connectionTimeout, readTimeout, authentication, token, appRole,
      appId, awsEc2, kubernetes, cert, generic, backends, lifecycle, leaseRefresh, failFast }

end SecretLayers.Config
