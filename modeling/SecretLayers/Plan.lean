import SecretLayers.Backend.Factory
import SecretLayers.Config.Basic
/-!
Plans: the entries that a configuration reads for some profiles.
-/
namespace SecretLayers

namespace Config.Generic

/-- The entry of a context. -/
def entry (mount context : String) : Backend.Entry :=
  { name := mount ++ "/" ++ context
    values := .ofPairs [("backend", mount), ("key", context)] }

/-- The entries of the generic engine; none if it is disabled. -/
def entries (g : Generic) (profiles : List String) : List Backend.Entry :=
  if g.enabled then (g.contexts profiles).map (entry (Text.trimSlashes g.backend)) else []

end Config.Generic

structure Plan where
  generic : List Backend.Entry
  backends : Backend.Resolution

namespace Plan

def ofConfig (factories : List Backend.Factory) (c : Config) (profiles : List String) :
    Except Error Plan :=
  (Backend.resolve factories c.backends).map fun backends =>
    { generic := c.generic.entries profiles, backends }

/-- The entries in order of precedence. -/
def entries (p : Plan) : List Backend.Entry :=
  Backend.Entry.inOrder p.generic p.backends.entries

end Plan
end SecretLayers
