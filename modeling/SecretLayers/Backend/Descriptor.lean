import SecretLayers.Backend.Kind
import SecretLayers.Document
import SecretLayers.Properties.Basic
/-!
What a configuration says about one credential backend.
-/
namespace SecretLayers.Backend

/-- One credential backend. The kind is free text, so that engines that are not built in
can be served too. -/
structure Descriptor where
  kind : String := ""
  enabled : Bool := false
  /-- Where the engine is mounted, if not under its usual name. -/
  backend : Option String := none
  role : Option String := none
  /-- Read the credentials of a fixed account. -/
  staticRole : Bool := false
  /-- Lower comes first. -/
  order : Int := 0
  /-- Names of properties by field of the credentials. -/
  propertyNames : Properties := ∅

namespace Descriptor

/-- An enabled backend of a kind. -/
def ofKind (kind : String) : Descriptor := { kind, enabled := true }

def withRole (d : Descriptor) (role : String) : Descriptor := { d with role := some role }

/-- The same backend mounted elsewhere. -/
def withBackend (d : Descriptor) (backend : String) : Descriptor := { d with backend := some backend }

def withOrder (d : Descriptor) (order : Int) : Descriptor := { d with order }

def disabled (d : Descriptor) : Descriptor := { d with enabled := false }

def builtinKind? (d : Descriptor) : Option Kind := Kind.ofText? d.kind

/-- The trimmed role, if anything is left of it. -/
def role? (d : Descriptor) : Option String := d.role.bind Text.trimmed?

/-- The mount without the slashes around it; the name of the kind where none is given. -/
def mount (d : Descriptor) (kind : Kind) : String :=
  ((d.backend.map Text.trimSlashes).filter (· ≠ "")).getD kind.name

open Document in
def read? {ν : Type} [Document ν] (v : ν) : Option Descriptor := do
  let fs ← fields? ["kind", "enabled", "backend", "role", "static_role", "order", "property_names"] v
  let kind ← fs.withDefault "" text? "kind"
  let enabled ← fs.withDefault false flag? "enabled"
  let backend ← fs.withDefault none (optional text?) "backend"
  let role ← fs.withDefault none (optional text?) "role"
  let staticRole ← fs.withDefault false flag? "static_role"
  let order ← fs.withDefault 0 integer? "order"
  let names ← fs.withDefault [] textsByName "property_names"
  some { kind, enabled, backend, role, staticRole, order, propertyNames := .ofPairs names }

end Descriptor
end SecretLayers.Backend
