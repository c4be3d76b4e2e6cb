import SecretLayers.Lease
/-!
Systems on a clock that only moves as told.

A system takes events at instants and shows actions. Some events it takes by itself: the
urgent ones as soon as they are possible, a tick once that is due, and the launch of its
task when there is nothing else to do. A timeline lets a
system run in surroundings that answer its actions, at once or after some time. Whatever
is possible at an instant happens at that instant.
-/
namespace SecretLayers

/-- A system by its states, the events that it takes, and the actions that it shows. -/
structure System (σ ε α : Type) where
  /-- The next state and what is seen of the step, if the event is possible. -/
  step? : σ → Instant → ε → Option (σ × List α)
  /-- Events that are taken as soon as they are possible, the most urgent first. -/
  urgent : σ → List ε
  tick : ε
  /-- An event that is taken when nothing else can happen at an instant. -/
  launch : ε
  tickDue? : σ → Option Instant

/-- An event that is still to come, told when it arrives. -/
structure Expected (ε : Type) where
  due : Instant
  event : Instant → ε

/-- What answers the actions of a system. An action may be answered by an event after some
time, and the answers may depend on what has been asked before. -/
structure Surroundings (ρ ε α : Type) where
  react : ρ → α → ρ × Option (Span × (Instant → ε))

structure Timeline (σ ρ ε α : Type) where
  state : σ
  around : ρ
  now : Instant := 0
  expected : List (Expected ε) := []
  /-- What has been seen, and when, the latest first. -/
  seen : List (Instant × α) := []

namespace Timeline

variable {σ ρ ε α : Type}

/-! ## Events -/

/-- Notes an action and what it leads to. -/
def note (w : Surroundings ρ ε α) (t : Timeline σ ρ ε α) (a : α) : Timeline σ ρ ε α :=
  let (around, answer) := w.react t.around a
  { t with
    around
    expected := t.expected ++ (answer.map fun (delay, event) => ⟨t.now + delay, event⟩).toList
    seen := (t.now, a) :: t.seen }

/-- Lets an event happen now, if it is possible. -/
def happen? (s : System σ ε α) (w : Surroundings ρ ε α) (t : Timeline σ ρ ε α) (e : ε) :
    Option (Timeline σ ρ ε α) :=
  (s.step? t.state t.now e).map fun (state, actions) => actions.foldl (note w) { t with state }

def happen (s : System σ ε α) (w : Surroundings ρ ε α) (t : Timeline σ ρ ε α) (e : ε) :
    Timeline σ ρ ε α :=
  (t.happen? s w e).getD t

/-- The first expected event that is due by an instant, and the others. -/
def takeDue? (limit : Instant) : List (Expected ε) → Option (Expected ε × List (Expected ε))
  | [] => none
  | e :: rest =>
    if e.due ≤ limit then some (e, rest)
    else (takeDue? limit rest).map fun (found, others) => (found, e :: others)

/-- The next thing to happen at the present instant, if there is one: something urgent,
then something expected, then a tick, then the launch. -/
def immediate? (s : System σ ε α) (w : Surroundings ρ ε α) (t : Timeline σ ρ ε α) :
    Option (Timeline σ ρ ε α) :=
  ((s.urgent t.state).findSome? (t.happen? s w)).or <|
    match takeDue? t.now t.expected with
    | some (e, expected) => some ({ t with expected }.happen s w (e.event t.now))
    | none => (t.happen? s w s.tick).or (t.happen? s w s.launch)

/-! ## Letting time pass -/

/-- The next instant at which something is due. -/
def nextDue? (s : System σ ε α) (t : Timeline σ ρ ε α) : Option Instant :=
  (t.expected.map (·.due) ++ (s.tickDue? t.state).toList).min?

/-- Lets things happen in their order while `going` holds, but none after `limit`. The
number says how many at most. -/
def advance (s : System σ ε α) (w : Surroundings ρ ε α) (limit : Option Instant)
    (going : Timeline σ ρ ε α → Bool) : Nat → Timeline σ ρ ε α → Timeline σ ρ ε α
  | 0, t => t
  | n + 1, t =>
    if !going t then t
    else match t.immediate? s w with
      | some t => advance s w limit going n t
      | none => match t.nextDue? s with
        | some due => if limit.all (due ≤ ·) then advance s w limit going n { t with now := due } else t
        | none => t

/-- How many things may happen before a timeline is left as it is. -/
def patience : Nat := Nat.pow 10 9

/-- Everything that is possible now happens. -/
def settle (s : System σ ε α) (w : Surroundings ρ ε α) (t : Timeline σ ρ ε α) :
    Timeline σ ρ ε α :=
  t.advance s w (some t.now) (fun _ => true) patience

/-- Time passes, and everything due in between happens at its own instant. -/
def sleep (s : System σ ε α) (w : Surroundings ρ ε α) (span : Span) (t : Timeline σ ρ ε α) :
    Timeline σ ρ ε α :=
  let target := t.now + span
  { t.advance s w (some target) (fun _ => true) patience with now := target }

/-- The clock moves at once, and what fell due in between happens then. -/
def jump (s : System σ ε α) (w : Surroundings ρ ε α) (span : Span) (t : Timeline σ ρ ε α) :
    Timeline σ ρ ε α :=
  { t with now := t.now + span }.settle s w

/-- Time passes until something has come about. -/
def await (s : System σ ε α) (w : Surroundings ρ ε α) (reached : Timeline σ ρ ε α → Bool)
    (t : Timeline σ ρ ε α) : Timeline σ ρ ε α :=
  t.advance s w none (fun t => !reached t) patience

/-- Takes what has been seen off the record, the earliest first. -/
def report (t : Timeline σ ρ ε α) : List (Instant × α) × Timeline σ ρ ε α :=
  (t.seen.reverse, { t with seen := [] })

end Timeline
end SecretLayers
