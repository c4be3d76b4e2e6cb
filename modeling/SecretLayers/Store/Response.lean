import SecretLayers.Json.Document
import SecretLayers.Properties.Flatten
import SecretLayers.Token
/-!
What the bodies of answers say.
-/
namespace SecretLayers.Store

/-- The members of an object, as free data. -/
def membersOf? (node : Json.Node) : Option (List (String × Json)) :=
  match node.value? with
  | some (.object members) => some members
  | _ => none

/-- The envelope around what logins, reads and unwraps return. -/
structure Response where
  grant : Option Grant
  data : Option (List (String × Json))
  leaseId : Option String
  leaseSeconds : Option Nat
  renewable : Option Bool
  warnings : Option (List String)

namespace Response

open Document in
def read? (node : Json.Node) : Option Response := do
  let fs ← fields? ["auth", "data", "lease_id", "lease_duration", "renewable", "warnings"] node
  let grant ← fs.withDefault none (optional Grant.read?) "auth"
  let data ← fs.withDefault none (optional membersOf?) "data"
  let leaseId ← fs.withDefault none (optional text?) "lease_id"
  let leaseSeconds ← fs.withDefault none (optional natural?) "lease_duration"
  let renewable ← fs.withDefault none (optional flag?) "renewable"
  let warnings ← fs.withDefault none (optional (listOf text?)) "warnings"
  some { grant, data, leaseId, leaseSeconds, renewable, warnings }

def parse? (body : String) : Option Response := (Json.Node.parse? body).bind read?

end Response

/-- What a read brings: data, and the lease it is granted for. -/
structure Reading where
  data : List (String × Json) := []
  leaseId : Option String := none
  leaseSeconds : Nat := 0
  renewable : Bool := false

namespace Reading

/-- An empty lease id is none. -/
def ofResponse (r : Response) : Reading :=
  { data := r.data.getD []
    leaseId := r.leaseId.filter (· ≠ "")
    leaseSeconds := r.leaseSeconds.getD 0
    renewable := r.renewable.getD false }

def properties (r : Reading) : Properties := .flatten r.data

end Reading

/-! ## Errors -/

open Document in
/-- The messages of an error body. -/
def errorsOf? (node : Json.Node) : Option (List String) := do
  let fs ← fields? ["errors"] node
  fs.withDefault [] (listOf text?) "errors"

/-- What an error body tells: its messages if it has any, else its text. -/
def errorMessage (body : String) : String :=
  match (Json.Node.parse? body).bind errorsOf? with
  | some (e :: es) => ", ".intercalate (e :: es)
  | _ => if Text.isBlankText body then "no response body" else Text.trim body

/-! ## Health -/

structure Health where
  initialized : Bool
  isSealed : Bool
  standby : Bool
  version : Option String
  deriving DecidableEq, Repr

namespace Health

open Document in
def read? (node : Json.Node) : Option Health := do
  let fs ← fields? ["initialized", "sealed", "standby", "version"] node
  let initialized ← fs.required flag? "initialized"
  let isSealed ← fs.required flag? "sealed"
  let standby ← fs.required flag? "standby"
  let version ← fs.withDefault none (optional text?) "version"
  some { initialized, isSealed, standby, version }

def parse? (body : String) : Option Health := (Json.Node.parse? body).bind read?

/-- Whether secrets can be read. -/
def isReady (h : Health) : Bool := h.initialized && !h.isSealed

end Health
end SecretLayers.Store
