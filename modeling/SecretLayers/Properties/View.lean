import SecretLayers.Lease
import SecretLayers.Properties.Basic
/-!
Views: layers of properties, the earlier covering the later.
-/
namespace SecretLayers

/-- The lease that came with a secret. -/
structure SecretLease where
  id : String
  lease : Lease
  renewable : Bool
  deriving DecidableEq, Repr

/-- A named layer of properties. -/
structure Source where
  name : String
  properties : Properties := ∅
  lease : Option SecretLease := none

namespace Source

def empty (name : String) : Source := { name }

def get? (s : Source) (key : String) : Option String := s.properties[key]?

def isEmpty (s : Source) : Bool := s.properties.isEmpty

/-- Whether the lease is expiring, where that is defined; never without a lease. -/
def isExpiring? (o : RenewalOptions) (s : Source) (now : Instant) : Option Bool :=
  match s.lease with
  | none => some false
  | some l => o.isExpiring? l.lease now

end Source

/-- Sources by precedence, the first one counting most. -/
structure View where
  sources : List Source

namespace View

def size (v : View) : Nat := v.sources.length

def source? (v : View) (name : String) : Option Source :=
  v.sources.find? fun s => s.name == name

/-- The value of a key in the first source that has it. -/
def get? (v : View) (key : String) : Option String :=
  v.sources.findSome? fun s => s.get? key

/-- The name of the first source that has a key. -/
def origin? (v : View) (key : String) : Option String :=
  (v.sources.find? fun s => s.properties.contains key).map (·.name)

/-- All properties in one map. -/
def merged (v : View) : Properties :=
  v.sources.foldl
    (fun all s => s.properties.toList.foldl (fun all (key, value) => all.insertIfNew key value) all) ∅

/-- The keys in ascending order. -/
def keys (v : View) : List String := v.merged.keys

/-- Puts a source in the place of the first of its name; nothing where there is none. -/
def replaceIn? (source : Source) : List Source → Option (List Source)
  | [] => none
  | s :: rest =>
    if s.name = source.name then some (source :: rest)
    else (replaceIn? source rest).map (s :: ·)

def replace? (v : View) (source : Source) : Option View :=
  (replaceIn? source v.sources).map View.mk

end View
end SecretLayers
