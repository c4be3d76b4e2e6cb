import SecretLayers.Token
/-!
The slot of a session: the token it holds, and what that token means at an instant.
-/
namespace SecretLayers.Session

/-- How a session treats its token. -/
inductive Discipline where
  /-- The token is kept until it is given up, whatever becomes of its lease. -/
  | simple
  /-- The token counts while its lease lasts, and is renewed before that ends. -/
  | renewing (options : RenewalOptions)

/-- What a session can say about itself. -/
inductive Status where
  | unauthenticated
  | authenticated
  | expiring
  deriving DecidableEq, Repr

def Status.name : Status → String
  | unauthenticated => "unauthenticated"
  | authenticated => "authenticated"
  | expiring => "expiring"

/-- What a renewal check comes to. -/
inductive Outcome where
  /-- Nothing had to be done. -/
  | idle
  | renewed
  /-- The token is gone: it was not renewable, or its renewal failed. -/
  | dropped
  deriving DecidableEq, Repr

def Outcome.name : Outcome → String
  | idle => "idle"
  | renewed => "renewed"
  | dropped => "dropped"

/-- What a renewal check decides before it asks the store. -/
inductive Decision where
  | idle
  | drop
  | renew (token : Token)

namespace Discipline

/-- The held token, if it can be handed out. -/
def usable? (d : Discipline) (held : Option Token) (now : Instant) : Option Token :=
  match d with
  | simple => held
  | renewing _ => held.filter fun t => !t.isExpired now

/-- The status; nothing where the expiry of the token is undefined. -/
def status? (d : Discipline) (held : Option Token) (now : Instant) : Option Status :=
  match d, held with
  | _, none => some .unauthenticated
  | simple, some _ => some .authenticated
  | renewing o, some t =>
    if t.isExpired now then some .unauthenticated
    else (t.isExpiring? o now).map fun expiring => if expiring then .expiring else .authenticated

/-- What a renewal check does; nothing where the expiry of the token is undefined. -/
def decide? (d : Discipline) (held : Option Token) (now : Instant) : Option Decision :=
  match d, held with
  | renewing o, some t =>
    (t.isExpiring? o now).map fun expiring =>
      if !expiring then .idle else if t.renewable then .renew t else .drop
  | _, _ => some .idle

end Discipline
end SecretLayers.Session
