import SecretLayers.Auth.Method
import SecretLayers.Backend.Descriptor
import SecretLayers.Contexts
import SecretLayers.Lease
import SecretLayers.Secret
/-!
The configuration: everything needed to log in, to plan what is read, and to keep it fresh.
-/
namespace SecretLayers

/-- Login by role id. -/
structure Config.AppRole where
  roleId : Option String := none
  secretId : Option Secret := none
  /-- Where the method is mounted. -/
  path : String := "approle"

/-- Login by application and user id. -/
structure Config.AppId where
  /-- The application name, if not given. -/
  appId : Option String := none
  path : String := "app-id"
  /-- How the user id is derived, or the id itself. -/
  userId : String := "MAC_ADDRESS"
  networkInterface : Option String := none

/-- Login by instance identity. -/
structure Config.AwsEc2 where
  role : Option String := none
  path : String := "aws-ec2"
  /-- Where the identity document is fetched. -/
  identityDocument : String := "http://169.254.169.254/latest/dynamic/instance-identity/pkcs7"

/-- Login by service account. -/
structure Config.Kubernetes where
  role : Option String := none
  path : String := "kubernetes"
  tokenFile : String := "/var/run/secrets/kubernetes.io/serviceaccount/token"

/-- Login by certificate. -/
structure Config.Cert where
  path : String := "cert"

/-- The generic secrets of an application. -/
structure Config.Generic where
  enabled : Bool := true
  /-- Where the engine is mounted. -/
  backend : String := "secret"
  defaultContext : String := "application"
  profileSeparator : String := "/"
  /-- One name, or several separated by commas. -/
  applicationName : String := ""

namespace Config.Generic

/-- The contexts to read for some profiles, by precedence. -/
def contexts (g : Generic) (profiles : List String) : List String :=
  Contexts.ofNames [g.applicationName] profiles g.defaultContext g.profileSeparator

end Config.Generic

structure Config where
  address : String := "http://127.0.0.1:8200"
  namespaceName : Option String := none
  connectionTimeout : Nat := 5
  readTimeout : Nat := 15
  authentication : Auth.Method := .token
  /-- The session token, or the token to unwrap. -/
  token : Option Secret := none
  appRole : Config.AppRole := {}
  appId : Config.AppId := {}
  awsEc2 : Config.AwsEc2 := {}
  kubernetes : Config.Kubernetes := {}
  cert : Config.Cert := {}
  generic : Config.Generic := {}
  backends : List Backend.Descriptor := []
  /-- Renewal of the session token. -/
  lifecycle : RenewalOptions := {}
  /-- Refresh of leased sources. -/
  leaseRefresh : RenewalOptions := { enabled := false }
  failFast : Bool := false

end SecretLayers
