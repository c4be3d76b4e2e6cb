import SecretLayers.Backend.Entry
import SecretLayers.Error
import SecretLayers.Properties.View
import SecretLayers.Store.Response
/-!
Composing a view from the reads of its entries.

Reads run at the same time, and the view keeps the order of the entries. Some errors end
the composition, the others leave their source empty. Up to thirty reads are watched
together, so the first error to arrive ends it; the results of more are taken in the order
of the entries, so an error waits for the entries before it.
-/
namespace SecretLayers

namespace Compose

/-- Whether an error ends the composition. -/
def aborts (failFast : Bool) (e : Error) : Bool := failFast || e.isFatal

/-! ## Sources -/

/-- The lease of a reading: one with an id and a term. -/
def leaseOf (r : Store.Reading) (now : Instant) : Option SecretLease :=
  match r.leaseId with
  | some id =>
    if id ≠ "" ∧ 0 < r.leaseSeconds then
      some { id, lease := ⟨r.leaseSeconds, now⟩, renewable := r.renewable }
    else none
  | none => none

/-- The source that a read makes of an entry. -/
def sourceOf (entry : Backend.Entry) (now : Instant) : Option Store.Reading → Source
  | none => .empty entry.name
  | some r =>
    { name := entry.name
      properties := entry.transform.apply r.properties
      lease := leaseOf r now }

/-- What a read comes to under the policy: its source, or the error that ends it all. -/
def loadSource (failFast : Bool) (entry : Backend.Entry)
    (read : Timed (Except Error (Option Store.Reading))) : Except Error Source :=
  match read.value with
  | .ok reading => .ok (sourceOf entry read.instant reading)
  | .error e => if aborts failFast e then .error e else .ok (.empty entry.name)

/-! ## Joining -/

/-- A result in the making: when it is there, if ever. -/
abbrev Eventually (α : Type) := Option (Timed (Except Error α))

/-- How many reads are watched together. -/
def watchLimit : Nat := 30

/-- The error that arrives first; of those of one instant, that of the first entry. -/
def earliestError {α : Type} : List (Eventually α) → Option (Timed Error)
  | [] => none
  | r :: rest =>
    match r, earliestError rest with
    | some ⟨t, .error e⟩, some first => if first.instant < t then some first else some ⟨t, e⟩
    | some ⟨t, .error e⟩, none => some ⟨t, e⟩
    | _, first => first

/-- All results in order, and when the last of them arrived; the first error in order
ends it once everything before it has arrived. -/
def inOrder {α : Type} (start : Instant) : List (Eventually α) → Eventually (List α)
  | [] => some ⟨start, .ok []⟩
  | none :: _ => none
  | some ⟨t, .error e⟩ :: _ => some ⟨max start t, .error e⟩
  | some ⟨t, .ok a⟩ :: rest =>
    match inOrder (max start t) rest with
    | none => none
    | some ⟨u, .error e⟩ => some ⟨u, .error e⟩
    | some ⟨u, .ok as⟩ => some ⟨u, .ok (a :: as)⟩

/-- Results that are watched together. -/
def together {α : Type} (start : Instant) (results : List (Eventually α)) : Eventually (List α) :=
  match earliestError results with
  | some ⟨t, e⟩ => some ⟨t, .error e⟩
  | none => inOrder start results

def join {α : Type} (start : Instant) (results : List (Eventually α)) : Eventually (List α) :=
  if results.length ≤ watchLimit then together start results else inOrder start results

/-! ## Composition -/

/-- A read in the making. -/
abbrev Read := Option (Timed (Except Error (Option Store.Reading)))

/-- The view without any reads: an empty source for each entry. -/
def emptyView (entries : List Backend.Entry) : View := ⟨entries.map fun e => .empty e.name⟩

/-- The reads of entries under the policy, joined. -/
def reads (failFast : Bool) (start : Instant) (entries : List (Backend.Entry × Read)) :
    Eventually View :=
  let results := entries.map fun (entry, read) =>
    read.map fun r => (⟨r.instant, loadSource failFast entry r⟩ : Timed (Except Error Source))
  (join start results).map fun r => ⟨r.instant, r.value.map View.mk⟩

/-- The composition where the preparation failed: the error ends it, or every source is
empty and nothing is read. -/
def unread (failFast : Bool) (e : Error) (entries : List Backend.Entry) : Except Error View :=
  if aborts failFast e then .error e else .ok (emptyView entries)

/-- A composition: the preparation first, then the reads. -/
def compose (failFast : Bool) (prepared : Timed (Except Error Unit))
    (entries : List (Backend.Entry × Read)) : Eventually View :=
  match prepared.value with
  | .ok () => reads failFast prepared.instant entries
  | .error e => some ⟨prepared.instant, unread failFast e (entries.map (·.1))⟩

/-! ## Reads that all come to an end -/

theorem isSome_inOrder {α : Type} (start : Instant) (rs : List (Timed (Except Error α))) :
    (inOrder start (rs.map some)).isSome := by
  induction rs generalizing start with
  | nil => rfl
  | cons r rs ih =>
    obtain ⟨t, value⟩ := r
    cases value with
    | error e => rfl
    | ok a =>
      obtain ⟨⟨u, rest⟩, h⟩ := Option.isSome_iff_exists.1 (ih (max start t))
      cases rest <;> simp [inOrder, h]

theorem isSome_join {α : Type} (start : Instant) (rs : List (Timed (Except Error α))) :
    (join start (rs.map some)).isSome := by
  unfold join together
  split
  · split
    · rfl
    · exact isSome_inOrder start rs
  · exact isSome_inOrder start rs

theorem isSome_reads (failFast : Bool) (start : Instant)
    (entries : List (Backend.Entry × Timed (Except Error (Option Store.Reading)))) :
    (reads failFast start (entries.map fun e => (e.1, some e.2))).isSome := by
  simp only [reads, List.map_map, Option.isSome_map]
  have h := isSome_join start (entries.map fun e =>
    (⟨e.2.instant, loadSource failFast e.1 e.2⟩ : Timed (Except Error Source)))
  rw [List.map_map] at h
  exact h

/-- The composition of reads that all come to an end. -/
def readsDone (failFast : Bool) (start : Instant)
    (entries : List (Backend.Entry × Timed (Except Error (Option Store.Reading)))) :
    Timed (Except Error View) :=
  (reads failFast start (entries.map fun e => (e.1, some e.2))).get
    (isSome_reads failFast start entries)

end Compose
end SecretLayers
