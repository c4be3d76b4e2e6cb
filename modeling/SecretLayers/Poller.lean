import SecretLayers.Lease
/-!
Pollers: tasks that do their work in intervals until they are stopped.

The first interval begins when the task first runs, which may be some time after it was
asked for. A tick that is taken late starts the intervals
anew, any other keeps to the schedule. A poller that is at work does not notice that it
has been stopped before it has finished.
-/
namespace SecretLayers

inductive Poller where
  | off
  /-- Asked for, but has not run yet. -/
  | fresh
  | sleeping (due : Instant)
  /-- Its work is under way; the next tick is due then. -/
  | working (next : Instant)
  | ended
  deriving DecidableEq, Repr

namespace Poller

/-- A poller, if the options ask for one. -/
def start (o : RenewalOptions) : Poller := if o.enabled then .fresh else .off

/-- The task runs for the first time. -/
def launch? (interval : Span) (now : Instant) : Poller → Option Poller
  | fresh => some (.sleeping (now + interval))
  | _ => none

/-- A tick counts as late from more than five milliseconds on. -/
def lateness : Span := Span.ofMillis 5

/-- When the tick after one that was due at an instant is due. -/
def nextDue (interval : Span) (due now : Instant) : Instant :=
  if due + lateness < now then now + interval else due + interval

def due? : Poller → Option Instant
  | sleeping due => some due
  | _ => none

/-- Sets to work, if it is time. -/
def tick? (interval : Span) (now : Instant) : Poller → Option Poller
  | sleeping due => if due ≤ now then some (.working (nextDue interval due now)) else none
  | _ => none

/-- Ends, unless it is at work. -/
def stop? : Poller → Option Poller
  | fresh | sleeping _ => some .ended
  | _ => none

/-- Goes back to sleep after its work. -/
def resume : Poller → Poller
  | working next => .sleeping next
  | p => p

end Poller
end SecretLayers
