import SecretLayers.Error
import SecretLayers.Json.Document
import SecretLayers.Lease
import SecretLayers.Secret
/-!
Session tokens.

A token without a lease never expires. Only tokens that came from a login are renewed or
revoked.
-/
namespace SecretLayers

inductive Token.Origin where
  /-- Given in the configuration. -/
  | fixed
  /-- Granted by the store. -/
  | login
  deriving DecidableEq, Repr

/-- A credential for the store, with the lease it was granted for. -/
structure Token where
  secret : Secret
  lease : Lease
  renewable : Bool
  origin : Token.Origin
  deriving DecidableEq

namespace Token

def text (t : Token) : String := t.secret.exposed

/-- A token of the configuration. -/
def fixed (text : String) (now : Instant) : Token :=
  { secret := ⟨text⟩, lease := ⟨0, now⟩, renewable := false, origin := .fixed }

/-- A token granted by the store. -/
def granted (text : String) (seconds : Nat) (renewable : Bool) (now : Instant) : Token :=
  { secret := ⟨text⟩, lease := ⟨seconds, now⟩, renewable, origin := .login }

def isFromLogin (t : Token) : Bool := t.origin = .login

def expires (t : Token) : Bool := t.lease.seconds ≠ 0

/-- What remains of the lease; nothing where there is none. -/
def remaining? (t : Token) (now : Instant) : Option Span :=
  if t.expires then some (t.lease.remaining now) else none

def isExpired (t : Token) (now : Instant) : Bool := (t.remaining? now).any (· = 0)

/-- The same token with a lease that begins now. -/
def withLease (t : Token) (seconds : Nat) (renewable : Bool) (now : Instant) : Token :=
  { t with lease := ⟨seconds, now⟩, renewable }

/-- Whether the lease is expiring, where that is defined; never without a lease. -/
def isExpiring? (o : RenewalOptions) (t : Token) (now : Instant) : Option Bool :=
  if t.expires then o.isExpiring? t.lease now else some false

end Token

/-! ## Grants -/

/-- What the store says about a token it grants or renews. -/
structure Grant where
  clientToken : Option String
  accessor : Option String
  policies : List String
  renewable : Option Bool
  leaseSeconds : Option Nat

namespace Grant

open Document in
def read? (node : Json.Node) : Option Grant := do
  let fs ← fields? ["client_token", "accessor", "policies", "renewable", "lease_duration"] node
  let clientToken ← fs.nullable text? "client_token"
  let accessor ← fs.withDefault none (optional text?) "accessor"
  let policies ← fs.withDefault [] (listOf text?) "policies"
  let renewable ← fs.nullable flag? "renewable"
  let leaseSeconds ← fs.nullable natural? "lease_duration"
  some { clientToken, accessor, policies, renewable, leaseSeconds }

def missingToken : Error := .authentication "login response is missing client_token"

/-- The token of a grant: renewable if that is said, without a lease if none is said. -/
def token (g : Grant) (now : Instant) : Except Error Token :=
  match g.clientToken with
  | none => .error missingToken
  | some text =>
    if Text.isBlankText text then .error missingToken
    else .ok (.granted text (g.leaseSeconds.getD 0) (g.renewable.getD false) now)

/-- The token renewed: its lease begins anew. -/
def renew (g : Grant) (t : Token) (now : Instant) : Token :=
  t.withLease (g.leaseSeconds.getD 0) (g.renewable.getD false) now

end Grant
end SecretLayers
