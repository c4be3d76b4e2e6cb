import Mathlib.Data.Nat.Pairing
import SecretLayers.Loader
/-!
Loads that run at the same time.

They share the session of their loader. Each of them asks it for the token first, and then
again for the read of every entry; whoever asks waits in the queue of the session. A load is
over when its reads have come to a view or to an error, whatever of it still waits then
leaves the queue, and so it is with a load that nobody waits for any more.

A run is a list of events with their instants, as for sessions.
-/
namespace SecretLayers

namespace Loads

/-- How far the read of an entry has come. -/
inductive Progress where
  /-- It waits for the token of the session. -/
  | asking
  | sent (token : Token)
  | ended (result : Timed (Except Error (Option Store.Reading)))

def Progress.read : Progress → Compose.Read
  | ended result => some result
  | _ => none

inductive Phase where
  /-- The session is asked for its token, before anything is read. -/
  | preparing
  /-- The entries are read, since an instant. -/
  | reading (begun : Instant) (reads : List Progress)
  | ended (result : Timed (Except Error View))
  /-- Nobody waits for it any more. -/
  | dropped

def Phase.isOver : Phase → Bool
  | ended _ | dropped => true
  | _ => false

structure Load where
  entries : List Backend.Entry
  phase : Phase

inductive Event where
  | begin (profiles : List String)
  /-- The first of those who wait gets the slot of the session. -/
  | acquire
  /-- A login comes to its end. -/
  | answered (result : Except Error Token)
  /-- The read of an entry comes to its end; load and entry are given by their places. -/
  | read (load entry : Nat) (result : Except Error (Option Store.Reading))
  /-- Nobody waits for a load any more. -/
  | drop (load : Nat)

/-- What can be seen of loads, each known by its place: logins, reads, and results. -/
inductive Action where
  | login (load : Nat)
  | loggedIn (load : Nat) (result : Except Error Token)
  | reading (load : Nat) (entry : Backend.Entry) (token : Token)
  | returned (load : Nat) (result : Except Error View)

end Loads

structure Loads where
  config : Config
  factories : List Backend.Factory
  session : Session
  loads : List Loads.Load := []

namespace Loads

def ofLoader (l : Loader) : Loads where
  config := l.config
  factories := l.factories
  session := { Session.start l.seat.discipline with held := l.seat.held }

/-! ## Callers of the session -/

/-- Who asks for the token to prepare a load. -/
def preparer (load : Nat) : Nat := Nat.pair load 0

/-- Who asks for it to read an entry. -/
def reader (load entry : Nat) : Nat := Nat.pair load (entry + 1)

def loadOf (caller : Nat) : Nat := caller.unpair.1

def ask (s : Session) (callers : List Nat) : Session :=
  { s with queue := s.queue ++ callers.map .token }

def isAskedBy (load : Nat) : Session.Demand → Bool
  | .token c => loadOf c = load
  | _ => false

def isLoginBy (load : Nat) : Session.Flight → Bool
  | .login c => loadOf c = load
  | _ => false

/-- The session without those who ask for a load: they leave the queue, and their login ends. -/
def withdraw (s : Session) (load : Nat) : Session :=
  { s with
    queue := s.queue.filter fun d => !isAskedBy load d
    flight := s.flight.filter fun f => !isLoginBy load f }

/-! ## Loads that move on -/

def put (s : Loads) (i : Nat) (load : Load) : Loads := { s with loads := s.loads.set i load }

def finish (s : Loads) (i : Nat) (load : Load) (result : Timed (Except Error View)) :
    Loads × List Action :=
  ({ s.put i { load with phase := .ended result } with session := withdraw s.session i },
    [.returned i result.value])

/-- The load with its reads as far as they have come; it is over if they come to something. -/
def settle (s : Loads) (i : Nat) (load : Load) (begun : Instant) (reads : List Progress) :
    Loads × List Action :=
  match Compose.reads s.config.failFast begun (load.entries.zip (reads.map Progress.read)) with
  | some result => s.finish i load result
  | none => (s.put i { load with phase := .reading begun reads }, [])

/-- All entries are read, and each read asks for the token. -/
def startReads (s : Loads) (now : Instant) (i : Nat) (load : Load) : Loads × List Action :=
  let readers := (List.range load.entries.length).map (reader i)
  { s with session := ask s.session readers }.settle i load now (load.entries.map fun _ => .asking)

/-- The session has answered a caller. -/
def deliver (s : Loads) (now : Instant) (caller : Nat) (result : Except Error Token) :
    Loads × List Action :=
  let i := loadOf caller
  match s.loads[i]? with
  | none => (s, [])
  | some load =>
    match caller.unpair.2, load.phase, result with
    | 0, .preparing, .ok _ => s.startReads now i load
    | 0, .preparing, .error e =>
      s.finish i load ⟨now, Compose.unread s.config.failFast e load.entries⟩
    | j + 1, .reading begun reads, .ok t =>
      (s.put i { load with phase := .reading begun (reads.set j (.sent t)) },
        (load.entries[j]?).toList.map fun entry => .reading i entry t)
    | j + 1, .reading begun reads, .error e =>
      s.settle i load begun (reads.set j (.ended ⟨now, .error e⟩))
    | _, _, _ => (s, [])

/-! ## Steps -/

/-- For whom a login is under way. -/
def loggingIn? (s : Loads) : Option Nat :=
  match s.session.flight with
  | some (.login c) => some (loadOf c)
  | _ => none

/-- What the session shows, as it concerns the loads. -/
def heed (s : Loads) (now : Instant) : List Session.Action → Loads × List Action
  | [.called .login] => (s, s.loggingIn?.toList.map .login)
  | [.replied c (.token result)] => s.deliver now c result
  | _ => (s, [])

/-- The next state and what is seen of the step, if the event is possible. -/
def step? (s : Loads) (now : Instant) : Event → Option (Loads × List Action)
  | .begin profiles =>
    match Plan.ofConfig s.factories s.config profiles with
    | .error e =>
      some ({ s with loads := s.loads ++ [⟨[], .ended ⟨now, .error e⟩⟩] },
        [.returned s.loads.length (.error e)])
    | .ok plan =>
      some ({ s with
        loads := s.loads ++ [⟨plan.entries, .preparing⟩]
        session := ask s.session [preparer s.loads.length] }, [])
  | .acquire =>
    (s.session.step? now .acquire).map fun (session, seen) => { s with session }.heed now seen
  | .answered result =>
    (s.session.step? now (.answered result)).map fun (session, seen) =>
      let (next, more) := { s with session }.heed now seen
      (next, (s.loggingIn?.toList.map fun i => .loggedIn i result) ++ more)
  | .read i j result =>
    match s.loads[i]? with
    | none => none
    | some load =>
      match load.phase with
      | .reading begun reads =>
        match reads[j]? with
        | some (.sent _) => some (s.settle i load begun (reads.set j (.ended ⟨now, result⟩)))
        | _ => none
      | _ => none
  | .drop i =>
    match s.loads[i]? with
    | none => none
    | some load =>
      if load.phase.isOver then none
      else some ({ s.put i { load with phase := .dropped } with session := withdraw s.session i }, [])

/-- Runs events in turn; nothing if one of them is not possible. -/
def run? (s : Loads) : List (Instant × Event) → Option (Loads × List Action)
  | [] => some (s, [])
  | (now, e) :: rest => do
    let (s, seen) ← s.step? now e
    let (s, more) ← s.run? rest
    some (s, seen ++ more)

end Loads
end SecretLayers
