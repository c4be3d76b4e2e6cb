import SecretLayers.Document
/-!
Leases and when they count as about to run out.

Instants and spans are in nanoseconds, terms of leases in whole seconds. A lease is
expiring when what remains of it is within a fraction of its term, or within one interval
between two checks. The fraction is a double, so the product of the two is undefined when
it is not a number, negative, or too long to be a span.
-/
namespace SecretLayers

/-- Nanoseconds since the start of the clock. -/
abbrev Instant := Nat

/-- A length of time in nanoseconds. -/
abbrev Span := Nat

/-- What comes of something that takes time, and when. -/
structure Timed (α : Type) where
  instant : Instant
  value : α

namespace Span

def ofSeconds (n : Nat) : Span := n * Nat.pow 10 9

def ofMillis (n : Nat) : Span := n * Nat.pow 10 6

def millis (span : Span) : Nat := span / Nat.pow 10 6

/-- A double number of seconds as a span, to the nearest nanosecond; nothing for what is
not a number, negative, or of more than 64 bits of seconds. -/
def ofDouble? (x : Binary64) : Option Span :=
  if x.isFinite ∧ x.lt .zero = false ∧ x.units < Nat.pow 2 64 * Binary64.unitsPerOne then
    some (Binary64.roundQuotient (x.units * Nat.pow 10 9) Binary64.unitsPerOne)
  else none

/-- A fraction of so many seconds. -/
def scaled? (fraction : Binary64) (seconds : Nat) : Option Span :=
  ofDouble? (fraction.mul (.ofNat seconds))

end Span

/-- The term of something granted, and when it began. A term of no seconds never ends. -/
structure Lease where
  seconds : Nat
  start : Instant
  deriving DecidableEq, Repr

namespace Lease

def remaining (lease : Lease) (now : Instant) : Span :=
  Span.ofSeconds lease.seconds - (now - lease.start)

end Lease

/-! ## Settings -/

/-- How leases are watched by a background task. -/
structure RenewalOptions where
  enabled : Bool := true
  pollSeconds : Nat := 5
  /-- The fraction of a term below which a lease is expiring. -/
  threshold : Binary64 := .ofRatio false 1 4
  deriving DecidableEq, Repr

namespace RenewalOptions

/-- Seconds between two checks, at least one. -/
def pollInterval (o : RenewalOptions) : Nat := max 1 o.pollSeconds

def pollSpan (o : RenewalOptions) : Span := Span.ofSeconds o.pollInterval

/-- Whether a lease is expiring at an instant, where that is defined. -/
def isExpiring? (o : RenewalOptions) (lease : Lease) (now : Instant) : Option Bool :=
  (Span.scaled? o.threshold lease.seconds).map fun limit =>
    lease.remaining now ≤ limit || lease.remaining now ≤ o.pollSpan

open Document in
def read? {ν : Type} [Document ν] (default : RenewalOptions) (v : ν) : Option RenewalOptions := do
  let fs ← fields? ["enabled", "poll_interval_seconds", "expiry_threshold"] v
  let enabled ← fs.withDefault default.enabled flag? "enabled"
  let pollSeconds ← fs.withDefault default.pollSeconds natural? "poll_interval_seconds"
  let threshold ← fs.withDefault default.threshold double? "expiry_threshold"
  some { enabled, pollSeconds, threshold }

end RenewalOptions

/-! ## Small facts -/

theorem Span.ofSeconds_pos {n : Nat} (h : 0 < n) : 0 < Span.ofSeconds n := by
  unfold Span.ofSeconds
  exact Nat.mul_pos h (Nat.pow_pos (by decide : 0 < 10))

theorem Lease.remaining_antitone (lease : Lease) {a b : Instant} (h : a ≤ b) :
    lease.remaining b ≤ lease.remaining a :=
  Nat.sub_le_sub_left (Nat.sub_le_sub_right h _) _

/-- What is expiring goes on expiring. -/
theorem RenewalOptions.isExpiring?_later {o : RenewalOptions} {lease : Lease} {now later : Instant}
    (h : o.isExpiring? lease now = some true) (le : now ≤ later) :
    o.isExpiring? lease later = some true := by
  unfold RenewalOptions.isExpiring? at h ⊢
  obtain ⟨limit, hlimit, hnow⟩ := Option.map_eq_some_iff.1 h
  rw [hlimit, Option.map_some, Option.some.injEq]
  have hle := lease.remaining_antitone le
  simp only [Bool.or_eq_true, decide_eq_true_eq] at hnow ⊢
  exact hnow.imp (Nat.le_trans hle) (Nat.le_trans hle)

end SecretLayers
