import SecretLayers.Auth.Strategy
import SecretLayers.Config.Validate
import SecretLayers.Plan
import SecretLayers.Properties.Refresh
import SecretLayers.Session.Basic
/-!
Loading: from a configuration to the view it asks for.

A loader keeps one session for all it does. A load asks the session for a token once,
before anything is read; if that fails, nothing is read at all. The reads are sent
together, each with the token that the session hands out then.
-/
namespace SecretLayers

/-! ## Sessions of one caller -/

/-- A session as its only caller sees it: the strategy of its logins, and the token that
it holds. A poller may renew that token meanwhile, which changes nothing of its text. -/
structure Seat where
  client : Store.Client
  machine : Auth.Machine
  discipline : Session.Discipline
  strategy : Auth.Strategy
  held : Option Token := none

namespace Seat

/-- A login leaves its token; one that failed leaves all as it was. -/
def after (s : Seat) (login : Except Error Token) : Seat :=
  { s with
    strategy := s.strategy.after login
    held := match login with
      | .ok t => some t
      | .error _ => s.held }

/-- The token of the session: the one that is held, if it can be used, else that of a
login. -/
def token (s : Seat) (now : Instant) : Dialogue (Timed (Except Error Token) × Seat) :=
  match s.discipline.usable? s.held now with
  | some t => .done (⟨now, .ok t⟩, s)
  | none => ((s.strategy.login s.client s.machine now).timed now).map fun r => (r, s.after r.value)

def status? (s : Seat) (now : Instant) : Option Session.Status :=
  s.discipline.status? s.held now

/-- Gives the token up. One that came from a login is revoked, whatever comes of that. -/
def release (s : Seat) : Dialogue Seat :=
  let empty := { s with held := none }
  match s.held.filter Token.isFromLogin with
  | some t => (s.client.revoke t).map fun _ => empty
  | none => .done empty

/-! ## Reading -/

/-- Reads an entry with the token of the session. -/
def read (s : Seat) (now : Instant) (entry : Backend.Entry) :
    Dialogue (Timed (Except Error (Option Store.Reading)) × Seat) :=
  (s.token now).bind fun (r, s) =>
    match r.value with
    | .error e => .done (⟨r.instant, .error e⟩, s)
    | .ok t => ((s.client.read entry.name t).timed r.instant).map (·, s)

/-- Reads entries that are all asked for at one instant. -/
def readAll (s : Seat) (now : Instant) :
    List Backend.Entry →
      Dialogue (List (Backend.Entry × Timed (Except Error (Option Store.Reading))) × Seat)
  | [] => .done ([], s)
  | entry :: rest =>
    (s.read now entry).bind fun (r, s) =>
      (s.readAll now rest).map fun (rs, s) => ((entry, r) :: rs, s)

/-- The view of entries in their order. -/
def compose (s : Seat) (failFast : Bool) (entries : List Backend.Entry) (now : Instant) :
    Dialogue (Timed (Except Error View) × Seat) :=
  (s.token now).bind fun (r, s) =>
    match r.value with
    | .error e => .done (⟨r.instant, Compose.unread failFast e entries⟩, s)
    | .ok _ => (s.readAll r.instant entries).map fun (reads, s) =>
      (Compose.readsDone failFast r.instant reads, s)

/-- One pass of a refresher over its agenda; the number of replaced sources goes along. -/
def refresh (s : Seat) (r : Refresher) (replaced : Nat) (now : Instant) :
    List Backend.Entry → Dialogue ((Refresher × Nat) × Seat)
  | [] => .done ((r, replaced), s)
  | entry :: rest =>
    (s.read now entry).bind fun (reading, s) =>
      match r.replace? reading.instant entry reading.value with
      | some view => s.refresh { r with view } (replaced + 1) reading.instant rest
      | none => s.refresh r replaced reading.instant rest

end Seat

/-! ## Loaders -/

structure Loader where
  config : Config
  factories : List Backend.Factory
  seat : Seat

namespace Loader

/-- The session that a configuration asks for. -/
def disciplineOf (c : Config) : Session.Discipline :=
  if c.lifecycle.enabled then .renewing c.lifecycle else .simple

/-- A loader for a store that has a client already. The configuration is checked first,
then its credentials, and then whether its session can run. -/
def withClient (c : Config) (client : Store.Client) (factories : List Backend.Factory)
    (machine : Auth.Machine) (nonce : String) (tasksRun : Bool) : Except Error Loader := do
  c.validate
  let strategy ← Auth.Strategy.ofConfig c nonce
  let session ← Session.startWhere tasksRun (disciplineOf c)
  let seat : Seat := { client, machine, discipline := session.discipline, strategy }
  return { config := c, factories, seat }

def ofConfig (c : Config) (factories : List Backend.Factory) (machine : Auth.Machine)
    (nonce : String) (tasksRun : Bool) : Except Error Loader := do
  let client ← Store.Client.ofAddress c.address c.namespaceName
  withClient c client factories machine nonce tasksRun

def contexts (l : Loader) (profiles : List String) : List String := l.config.generic.contexts profiles

def plan (l : Loader) (profiles : List String) : Except Error Plan :=
  Plan.ofConfig l.factories l.config profiles

/-- The loader with another state of its session. -/
def withSeat (l : Loader) (seat : Seat) : Loader := { l with seat }

/-- The view for some profiles. -/
def load (l : Loader) (profiles : List String) (now : Instant) :
    Dialogue (Timed (Except Error View) × Loader) :=
  match l.plan profiles with
  | .error e => .done (⟨now, .error e⟩, l)
  | .ok plan => (l.seat.compose l.config.failFast plan.entries now).map fun (r, seat) =>
    (r, l.withSeat seat)

/-- A refresher for the view of some profiles. -/
def loadRefreshed (l : Loader) (profiles : List String) (now : Instant) :
    Dialogue (Timed (Except Error Refresher) × Loader) :=
  match l.plan profiles with
  | .error e => .done (⟨now, .error e⟩, l)
  | .ok plan => (l.seat.compose l.config.failFast plan.entries now).map fun (r, seat) =>
    let refresher := r.value.map fun view => .start view plan.entries l.config.leaseRefresh
    (⟨r.instant, refresher⟩, l.withSeat seat)

/-- One pass of a refresher; nothing where it is undefined which leases are expiring. -/
def refresh? (l : Loader) (r : Refresher) (now : Instant) :
    Option (Dialogue ((Refresher × Nat) × Loader)) :=
  (r.agenda? now).map fun agenda =>
    (l.seat.refresh r 0 now agenda).map fun (result, seat) => (result, l.withSeat seat)

/-- Ends a session that is renewed; any other just stays as it is. -/
def shutdown (l : Loader) : Dialogue Loader :=
  match l.seat.discipline with
  | .renewing _ => l.seat.release.map l.withSeat
  | .simple => .done l

end Loader
end SecretLayers
