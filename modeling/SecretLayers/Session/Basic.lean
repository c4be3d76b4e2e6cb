import SecretLayers.Error
import SecretLayers.Poller
import SecretLayers.Session.Slot
/-!
Sessions under concurrent use.

Callers demand things of the slot and are served one at a time, in the order in which they
came. A login or a renewal keeps the slot until the store has answered, so nobody else is
served meanwhile. A poller demands a renewal check in intervals. Shutting down stops the
poller, waits for its end, takes the token out of the slot, and has it revoked.

A run is a list of events with their instants. Each event is possible or not in a state,
and leads to one next state and to actions that can be seen from outside.
-/
namespace SecretLayers

namespace Session

/-- What a caller wants of the slot. Callers are told apart by numbers. -/
inductive Demand where
  | token (caller : Nat)
  | check (caller : Nat)
  /-- The renewal check of the poller. -/
  | poll
  | status (caller : Nat)
  /-- The removal of the token by a shutdown. -/
  | removal (caller : Nat)
  | invalidation (caller : Nat)
  deriving DecidableEq, Repr

/-- A call to the store that keeps the slot. -/
inductive Flight where
  | login (caller : Nat)
  /-- A renewal for a caller, or for the poller. -/
  | renewal (caller : Option Nat) (token : Token)

inductive Reply where
  | token (result : Except Error Token)
  | outcome (outcome : Outcome)
  | status (status : Status)
  | done
  /-- The expiry of the token is undefined. -/
  | undefined

inductive Call where
  | login
  | renew (token : Token)
  /-- The revocation for a shutdown. -/
  | revoke (caller : Nat) (token : Token)

/-- What can be seen of a session: calls to the store, and replies to callers. -/
inductive Action where
  | called (call : Call)
  | replied (caller : Nat) (reply : Reply)

inductive Event where
  | demand (d : Demand)
  /-- The first of those who wait gets the slot. -/
  | acquire
  /-- The store answers the call that keeps the slot. -/
  | answered (result : Except Error Token)
  /-- The poller runs for the first time. -/
  | launch
  | tick
  /-- The poller notices that it has been cancelled. -/
  | stop
  | shutdown (caller : Nat)
  /-- A shutdown goes on once the poller has ended. -/
  | join (caller : Nat)
  | revoked (caller : Nat) (result : Except Error Unit)
  /-- Nobody uses the session any more. -/
  | drop

end Session

structure Session where
  discipline : Session.Discipline
  held : Option Token := none
  flight : Option Session.Flight := none
  queue : List Session.Demand := []
  poller : Poller := .off
  /-- Whether a shutdown can still wait for the poller. -/
  joinable : Bool := false
  cancelled : Bool := false
  /-- Shutdowns that wait for the poller to end. -/
  joining : List Nat := []
  /-- Shutdowns that wait for a revocation. -/
  revoking : List Nat := []

namespace Session

/-- A session as it starts: with a poller, if its options ask for one. -/
def start (d : Discipline) : Session :=
  match d with
  | .simple => { discipline := d }
  | .renewing o => { discipline := d, poller := .start o, joinable := o.enabled }

def noRuntime : Error :=
  .configuration "Session renewal (vault.lifecycle.enabled) requires a Tokio runtime"

/-- Whether a session of this kind needs a background task. -/
def Discipline.needsTask : Discipline → Bool
  | .simple => false
  | .renewing o => o.enabled

/-- A session where background tasks may not be possible. -/
def startWhere (tasksRun : Bool) (d : Discipline) : Except Error Session :=
  if d.needsTask && !tasksRun then .error noRuntime else .ok (start d)

def pollSpan (s : Session) : Span :=
  match s.discipline with
  | .simple => 0
  | .renewing o => o.pollSpan

/-! ## Serving a demand -/

/-- Tells the outcome of a check to whoever demanded it. -/
def conclude (s : Session) (caller : Option Nat) (outcome : Outcome) : Session × List Action :=
  match caller with
  | some c => (s, [.replied c (.outcome outcome)])
  | none => ({ s with poller := s.poller.resume }, [])

/-- A check that is undefined ends the poller, if it was the poller's. -/
def abandon (s : Session) (caller : Option Nat) : Session × List Action :=
  match caller with
  | some c => (s, [.replied c .undefined])
  | none => ({ s with poller := .ended }, [])

def serveCheck (s : Session) (now : Instant) (caller : Option Nat) : Session × List Action :=
  match s.discipline.decide? s.held now with
  | none => s.abandon caller
  | some .idle => s.conclude caller .idle
  | some .drop => { s with held := none }.conclude caller .dropped
  | some (.renew t) => ({ s with flight := some (.renewal caller t) }, [.called (.renew t)])

def serveToken (s : Session) (now : Instant) (caller : Nat) : Session × List Action :=
  match s.discipline.usable? s.held now with
  | some t => (s, [.replied caller (.token (.ok t))])
  | none => ({ s with flight := some (.login caller) }, [.called .login])

def serveStatus (s : Session) (now : Instant) (caller : Nat) : Session × List Action :=
  match s.discipline.status? s.held now with
  | some status => (s, [.replied caller (.status status)])
  | none => (s, [.replied caller .undefined])

/-- Takes the token; one that came from a login is revoked. -/
def serveRemoval (s : Session) (caller : Nat) : Session × List Action :=
  match s.held.filter Token.isFromLogin with
  | some t =>
    ({ s with held := none, revoking := caller :: s.revoking }, [.called (.revoke caller t)])
  | none => ({ s with held := none }, [.replied caller .done])

def serve (s : Session) (now : Instant) : Demand → Session × List Action
  | .token caller => s.serveToken now caller
  | .check caller => s.serveCheck now (some caller)
  | .poll => s.serveCheck now none
  | .status caller => s.serveStatus now caller
  | .removal caller => s.serveRemoval caller
  | .invalidation caller => ({ s with held := none }, [.replied caller .done])

/-- The answer of the store to the call that keeps the slot. -/
def land (s : Session) (f : Flight) (result : Except Error Token) : Session × List Action :=
  let s := { s with flight := none }
  match f, result with
  | .login c, .ok t => ({ s with held := some t }, [.replied c (.token (.ok t))])
  | .login c, .error e => (s, [.replied c (.token (.error e))])
  | .renewal caller _, .ok t => { s with held := some t }.conclude caller .renewed
  | .renewal caller _, .error _ => { s with held := none }.conclude caller .dropped

/-! ## Steps -/

def enqueue (s : Session) (d : Demand) : Session := { s with queue := s.queue ++ [d] }

/-- The next state and what is seen of the step, if the event is possible. -/
def step? (s : Session) (now : Instant) : Event → Option (Session × List Action)
  | .demand d => some (s.enqueue d, [])
  | .acquire =>
    match s.flight, s.queue with
    | none, d :: rest => some ({ s with queue := rest }.serve now d)
    | _, _ => none
  | .answered result => s.flight.map fun f => s.land f result
  | .launch => (s.poller.launch? s.pollSpan now).map fun poller => ({ s with poller }, [])
  | .tick =>
    (s.poller.tick? s.pollSpan now).map fun poller => ({ s with poller }.enqueue .poll, [])
  | .stop =>
    if s.cancelled then s.poller.stop?.map fun poller => ({ s with poller }, []) else none
  | .shutdown caller =>
    let s := { s with cancelled := true }
    if s.joinable then some ({ s with joinable := false, joining := caller :: s.joining }, [])
    else some (s.enqueue (.removal caller), [])
  | .join caller =>
    if s.joining.contains caller && s.poller == .ended then
      some ({ s with joining := s.joining.erase caller }.enqueue (.removal caller), [])
    else none
  | .revoked caller _ =>
    if s.revoking.contains caller then
      some ({ s with revoking := s.revoking.erase caller }, [.replied caller .done])
    else none
  | .drop => some ({ s with cancelled := true }, [])

/-- Runs events in turn; nothing if one of them is not possible. -/
def run? (s : Session) : List (Instant × Event) → Option (Session × List Action)
  | [] => some (s, [])
  | (now, e) :: rest => do
    let (s, seen) ← s.step? now e
    let (s, more) ← s.run? rest
    some (s, seen ++ more)

end Session
end SecretLayers
