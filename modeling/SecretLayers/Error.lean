/-!
What can go wrong between a configuration and the properties it asks for.

The kind of an error decides what its callers do: three kinds mean that the program was
asked for something impossible and always end a load, the others end it only under
fail-fast.
-/
namespace SecretLayers

inductive Error where
  /-- The store, or a local credential, did not let us in. -/
  | authentication (reason : String)
  /-- A required setting is missing or invalid. -/
  | configuration (reason : String)
  /-- No usable answer came back; the causes go from the nearest to the deepest. -/
  | transport (reason : String) (causes : List String)
  /-- The store answered a request for `path` with an unexpected status. -/
  | backend (path : String) (status : Nat) (reason : String)
  /-- Text supplied by a caller is not acceptable. -/
  | validation (reason : String)
  /-- A document does not have the expected form. -/
  | serialization
  /-- The file system refused. -/
  | io (reason : String)
  | internal (reason : String)
  deriving DecidableEq, Repr, Inhabited

namespace Error

def message : Error → String
  | authentication reason => "Authentication failed: " ++ reason
  | configuration reason => "Configuration error: " ++ reason
  | transport reason _ => "Transport error: " ++ reason
  | backend path status reason =>
    "Secret store returned " ++ toString status ++ " for '" ++ path ++ "': " ++ reason
  | validation reason => "Validation error: " ++ reason
  | serialization => "Serialization error"
  | io reason => "I/O error: " ++ reason
  | internal reason => "Internal error: " ++ reason

/-- The causes below the message, nearest first. -/
def causes : Error → List String
  | transport _ causes => causes
  | io reason => [reason]
  | _ => []

/-- Ends a load under either failure policy. -/
def isFatal : Error → Bool
  | configuration _ | validation _ | internal _ => true
  | _ => false

def isAuthentication : Error → Bool
  | authentication _ => true
  | _ => false

end Error

/-! ## Failures of the network -/

/-- Why a request brought no answer. -/
inductive NetworkFault where
  /-- Nobody accepts connections; the causes tell how that showed. -/
  | unreachable (causes : List String)
  | timedOut (url : String)
  /-- The connection ended before the answer. -/
  | interrupted (url : String)
  /-- A value that no header can have. -/
  | badHeader
  /-- What should be requested is no address. -/
  | badAddress (reason : String)
  /-- An address that is not on the web. -/
  | badScheme (url : String)
  /-- An address with a host that no request can name. -/
  | badHost (url : String)
  /-- The body of an answer is not the document it should be. -/
  | undecodable
  deriving DecidableEq, Repr

namespace NetworkFault

def unsent (url : String) : String := "error sending request for url (" ++ url ++ ")"

def unformed : String := "builder error"

def unformedFor (url : String) : String := unformed ++ " for url (" ++ url ++ ")"

def message : NetworkFault → String
  | unreachable _ => "cannot connect to secret store"
  | timedOut _ => "request to secret store timed out"
  | interrupted url => unsent url
  | badHeader | badAddress _ => unformed
  | badScheme url | badHost url => unformedFor url
  | undecodable => "error decoding response body"

/-- What led to the fault, from the failed request downwards. -/
def causes : NetworkFault → List String
  | unreachable causes => causes
  | timedOut url => [unsent url, "operation timed out"]
  | interrupted url =>
    [unsent url, "client error (SendRequest)", "connection closed before message completed"]
  | badHeader => [unformed, "failed to parse header value"]
  | badAddress reason => [unformed, reason]
  | badScheme url => [unformedFor url, "URL scheme is not allowed"]
  | badHost url => [unformedFor url, "Parsed Url is not a valid Uri"]
  | undecodable => [undecodable.message]

def error (fault : NetworkFault) : Error := .transport fault.message fault.causes

end NetworkFault
end SecretLayers
