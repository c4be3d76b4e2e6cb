import SecretLayers.Text.Blank
/-!
The ways of obtaining a session token.
-/
namespace SecretLayers.Auth

inductive Method where
  /-- A token given in the configuration. -/
  | token
  /-- A role id, with or without a secret id. -/
  | approle
  /-- An application id and a user id derived from the machine. -/
  | appid
  /-- A certificate of the transport. -/
  | cert
  /-- The signed identity document of a cloud instance. -/
  | awsEc2
  /-- The token of a service account. -/
  | kubernetes
  /-- A token that can be unwrapped once. -/
  | cubbyhole
  deriving DecidableEq, Repr

namespace Method

def name : Method → String
  | token => "token"
  | approle => "approle"
  | appid => "appid"
  | cert => "cert"
  | awsEc2 => "aws_ec2"
  | kubernetes => "kubernetes"
  | cubbyhole => "cubbyhole"

/-- The spellings in documents. -/
def spellings : List (String × Method) :=
  [("token", token), ("approle", approle), ("app_role", approle), ("appid", appid),
    ("app_id", appid), ("cert", cert), ("aws_ec2", awsEc2), ("kubernetes", kubernetes),
    ("cubbyhole", cubbyhole), ("wrapped_token", cubbyhole)]

def unknownMessage (s : String) : String := "Unknown authentication method: " ++ s

/-- The method a variable names: any letter case, hyphens for underscores, blanks around. -/
def ofText? (s : String) : Option Method :=
  let plain := (Text.lowerAscii (Text.trim s)).toList.map fun c => if c = '-' then '_' else c
  spellings.lookup (String.ofList plain)

end Method
end SecretLayers.Auth
