import SecretLayers.Poller
import SecretLayers.Properties.Compose
import SecretLayers.Timeline
/-!
Refreshing the leased sources of a view.

A pass looks which leases are expiring when it begins, and reads the entries of their
sources one after the other. What is read takes the place of the first source of its name;
a failed read changes nothing. A poller runs passes in intervals, callers run them when
they like, and passes may be under way at the same time. Shutting down stops the poller
and waits for its end.

A run is a list of events with their instants, as for sessions.
-/
namespace SecretLayers

namespace Refresher

/-- A pass under way, and the entry that it is reading. -/
structure Pass where
  /-- Who asked for it; nobody for a pass of the poller. -/
  caller : Option Nat
  entry : Backend.Entry
  /-- What it reads after that. -/
  rest : List Backend.Entry
  /-- How many sources it has replaced. -/
  replaced : Nat

inductive Reply where
  | refreshed (replaced : Nat)
  | done
  /-- Whether some lease is expiring is undefined. -/
  | undefined
  deriving DecidableEq, Repr

inductive Action where
  | reading (caller : Option Nat) (entry : Backend.Entry)
  | replied (caller : Nat) (reply : Reply)

inductive Event where
  | refresh (caller : Nat)
  /-- The poller runs for the first time. -/
  | launch
  | tick
  /-- The poller notices that it has been stopped. -/
  | stop
  /-- What a pass was reading is there. -/
  | answered (caller : Option Nat) (result : Except Error (Option Store.Reading))
  | shutdown (caller : Nat)
  /-- A shutdown returns once the poller has ended. -/
  | join (caller : Nat)
  /-- Nobody uses the refresher any more. -/
  | drop

end Refresher

structure Refresher where
  view : View
  entries : List Backend.Entry
  options : RenewalOptions
  passes : List Refresher.Pass := []
  poller : Poller := .off
  cancelled : Bool := false
  /-- Shutdowns that wait for the poller to end. -/
  joining : List Nat := []

namespace Refresher

/-- A refresher as it starts: with a poller, if its options ask for one. -/
def start (view : View) (entries : List Backend.Entry) (o : RenewalOptions) : Refresher :=
  { view, entries, options := o, poller := .start o }

/-! ## Passes -/

/-- The names of the sources whose leases are expiring, where that is defined for all. -/
def expiring? (o : RenewalOptions) (now : Instant) : List Source → Option (List String)
  | [] => some []
  | s :: rest => do
    let isExpiring ← s.isExpiring? o now
    let names ← expiring? o now rest
    some (if isExpiring then s.name :: names else names)

/-- The entry that is read for a source of a name: the first of that name. -/
def entryNamed? (entries : List Backend.Entry) (name : String) : Option Backend.Entry :=
  entries.find? fun e => e.name == name

/-- What a pass that begins now has to read. -/
def agenda? (r : Refresher) (now : Instant) : Option (List Backend.Entry) :=
  (expiring? r.options now r.view.sources).map fun names => names.filterMap (entryNamed? r.entries)

/-- The end of a pass. -/
def conclude (r : Refresher) (caller : Option Nat) (replaced : Nat) : Refresher × List Action :=
  match caller with
  | some c => (r, [.replied c (.refreshed replaced)])
  | none => ({ r with poller := r.poller.resume }, [])

/-- Reads the next entry, or ends the pass. -/
def proceed (r : Refresher) (caller : Option Nat) (replaced : Nat) :
    List Backend.Entry → Refresher × List Action
  | [] => r.conclude caller replaced
  | entry :: rest =>
    ({ r with passes := ⟨caller, entry, rest, replaced⟩ :: r.passes }, [.reading caller entry])

/-- A pass that is undefined ends the poller, if it was the poller's. -/
def abandon (r : Refresher) (caller : Option Nat) : Refresher × List Action :=
  match caller with
  | some c => (r, [.replied c .undefined])
  | none => ({ r with poller := .ended }, [])

def begin (r : Refresher) (now : Instant) (caller : Option Nat) : Refresher × List Action :=
  match r.agenda? now with
  | none => r.abandon caller
  | some agenda => r.proceed caller 0 agenda

/-- The view with a reading in its place, if the view has a place for it. -/
def replace? (r : Refresher) (now : Instant) (entry : Backend.Entry) :
    Except Error (Option Store.Reading) → Option View
  | .ok reading => r.view.replace? (Compose.sourceOf entry now reading)
  | .error _ => none

/-- What a pass was reading is there. -/
def land (r : Refresher) (now : Instant) (p : Pass)
    (result : Except Error (Option Store.Reading)) : Refresher × List Action :=
  let r := { r with passes := r.passes.filter fun q => q.caller ≠ p.caller }
  match r.replace? now p.entry result with
  | some view => { r with view }.proceed p.caller (p.replaced + 1) p.rest
  | none => r.proceed p.caller p.replaced p.rest

/-! ## Steps -/

def isRunning (r : Refresher) : Bool := r.poller ≠ .off && r.poller ≠ .ended

/-- The next state and what is seen of the step, if the event is possible. -/
def step? (r : Refresher) (now : Instant) : Event → Option (Refresher × List Action)
  | .refresh caller => some (r.begin now (some caller))
  | .launch =>
    (r.poller.launch? r.options.pollSpan now).map fun poller => ({ r with poller }, [])
  | .tick =>
    (r.poller.tick? r.options.pollSpan now).map fun poller => { r with poller }.begin now none
  | .stop =>
    if r.cancelled then r.poller.stop?.map fun poller => ({ r with poller }, []) else none
  | .answered caller result =>
    (r.passes.find? fun p => p.caller = caller).map fun p => r.land now p result
  | .shutdown caller => some ({ r with cancelled := true, joining := caller :: r.joining }, [])
  | .join caller =>
    if r.joining.contains caller && !r.isRunning then
      some ({ r with joining := r.joining.erase caller }, [.replied caller .done])
    else none
  | .drop => some ({ r with cancelled := true }, [])

/-! ## On a clock -/

def system : System Refresher Event Action where
  step? := step?
  urgent r := .stop :: r.joining.map .join
  tick := .tick
  launch := .launch
  tickDue? r := r.poller.due?

/-- Answers reads as a store does that may depend on what was read before. A read may take
time, or never be answered. -/
def surroundings {ρ : Type}
    (respond : ρ → Backend.Entry → ρ × Option (Span × Except Error (Option Store.Reading))) :
    Surroundings ρ Event Action where
  react around
    | .reading caller entry =>
      let (around, answer) := respond around entry
      (around, answer.map fun (delay, result) => (delay, fun _ => .answered caller result))
    | .replied .. => (around, none)

/-- The reply that a caller got last. -/
def reply? {ρ : Type} (t : Timeline Refresher ρ Event Action) (caller : Nat) : Option Reply :=
  t.seen.findSome? fun
    | (_, .replied c reply) => if c = caller then some reply else none
    | _ => none

end Refresher
end SecretLayers
