import SecretLayers.Properties.Compose
/-!
Compositions by a fetcher.

A fetcher is prepared once, and reads nothing if that fails. Else it is asked for every
entry in turn, all at one instant, and each read takes its own time.
-/
namespace SecretLayers

/-- Somebody who reads the secrets of paths, and may remember what has been read. A read
may never end. -/
structure Fetcher (φ : Type) where
  prepare : φ → φ × Span × Except Error Unit
  fetch : φ → String → φ × Option (Span × Except Error (Option Store.Reading))

namespace Fetcher

variable {φ : Type}

/-- Reads entries that are all asked for at one instant. -/
def readAll (f : Fetcher φ) (now : Instant) :
    φ → List Backend.Entry → φ × List (Backend.Entry × Compose.Read)
  | s, [] => (s, [])
  | s, entry :: rest =>
    let (s, answer) := f.fetch s entry.name
    let (s, reads) := f.readAll now s rest
    (s, (entry, answer.map fun (delay, outcome) => ⟨now + delay, outcome⟩) :: reads)

/-- The view of generic entries and of backends, when it is there. -/
def compose (f : Fetcher φ) (failFast : Bool) (generic backends : List Backend.Entry)
    (start : Instant) (s : φ) : φ × Compose.Eventually View :=
  let entries := Backend.Entry.inOrder generic backends
  let (s, delay, outcome) := f.prepare s
  let prepared : Timed (Except Error Unit) := ⟨start + delay, outcome⟩
  match outcome with
  | .error _ => (s, Compose.compose failFast prepared (entries.map (·, none)))
  | .ok () =>
    let (s, reads) := f.readAll prepared.instant s entries
    (s, Compose.compose failFast prepared reads)

end Fetcher
end SecretLayers
