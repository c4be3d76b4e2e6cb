import SecretLayers.Backend.Transform
/-!
Entries of a plan: where a source of properties is read, and how its fields become
properties.
-/
namespace SecretLayers.Backend

/-- One source to read. Its name is the path it is read from. -/
structure Entry where
  name : String
  transform : Transform := .noop
  values : Properties := ∅
  /-- Place among the credential backends; lower comes first. -/
  order : Int := 0

namespace Entry

/-- Generic entries as given, then the credential backends by order; those of one order
stay as given. -/
def inOrder (generic backends : List Entry) : List Entry :=
  generic ++ backends.mergeSort fun a b => a.order ≤ b.order

end Entry
end SecretLayers.Backend
