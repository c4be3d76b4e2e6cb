import Std.Data.ExtTreeMap
/-!
Properties: texts by key, in ascending order of keys.
-/
namespace SecretLayers

abbrev Properties := Std.ExtTreeMap String String

namespace Properties

/-- Inserts pairs in turn, so that the last one of a key counts. -/
def extend (properties : Properties) (pairs : List (String × String)) : Properties :=
  pairs.foldl (fun p (key, value) => p.insert key value) properties

def ofPairs (pairs : List (String × String)) : Properties := extend ∅ pairs

/-! ## Small facts -/

theorem extend_append (properties : Properties) (as bs : List (String × String)) :
    properties.extend (as ++ bs) = (properties.extend as).extend bs := by
  simp [extend]

theorem ofPairs_nil : ofPairs [] = ∅ := rfl

end Properties
end SecretLayers
