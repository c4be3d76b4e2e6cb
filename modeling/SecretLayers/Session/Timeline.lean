import SecretLayers.Session.Basic
import SecretLayers.Timeline
/-!
Sessions on a clock, with a store that answers as it is told to.
-/
namespace SecretLayers.Session

/-- The slot is given away first, then a poller or a shutdown that can go on does so. -/
def system : System Session Event Action where
  step? := step?
  urgent s := .acquire :: .stop :: s.joining.map .join
  tick := .tick
  launch := .launch
  tickDue? s := s.poller.due?

/-- A store by what it answers to the n-th call of a kind, and how long that takes. -/
structure Responder where
  login : Nat → Span × (Instant → Except Error Token)
  renew : Nat → Token → Span × (Instant → Except Error Token)
  revoke : Nat → Span × Except Error Unit

/-- How many calls of each kind there have been. -/
structure Tally where
  logins : Nat := 0
  renewals : Nat := 0
  revocations : Nat := 0

namespace Responder

/-- The answer to a call, and when it arrives. -/
def answer (r : Responder) (n : Tally) : Call → Tally × (Span × (Instant → Event))
  | .login =>
    let (delay, result) := r.login n.logins
    ({ n with logins := n.logins + 1 }, delay, fun now => .answered (result now))
  | .renew token =>
    let (delay, result) := r.renew n.renewals token
    ({ n with renewals := n.renewals + 1 }, delay, fun now => .answered (result now))
  | .revoke caller _ =>
    let (delay, result) := r.revoke n.revocations
    ({ n with revocations := n.revocations + 1 }, delay, fun _ => .revoked caller result)

def surroundings (r : Responder) : Surroundings Tally Event Action where
  react n
    | .called c => let (n, answer) := r.answer n c; (n, some answer)
    | .replied .. => (n, none)

end Responder

abbrev Timeline := SecretLayers.Timeline Session Tally Event Action

/-- The reply that a caller got last, and when. -/
def Timeline.reply? (t : Timeline) (caller : Nat) : Option (Instant × Reply) :=
  t.seen.findSome? fun
    | (now, .replied c reply) => if c = caller then some (now, reply) else none
    | _ => none

end SecretLayers.Session
