import SecretLayers.Json.Printer
import SecretLayers.Properties.Basic
/-!
Properties of a nested document.

Each text, flag and number of the document becomes a property. Its key spells the way to
it: names of members joined by points, and positions in brackets.
-/
namespace SecretLayers.Properties

def fieldKey (key name : String) : String := key ++ "." ++ name

def itemKey (key : String) (index : Nat) : String := key ++ "[" ++ toString index ++ "]"

mutual

/-- Adds the properties of a value that stands at `key`. -/
def addValue (key : String) : Json → Properties → Properties
  | .null, out => out
  | .string s, out => out.insert key s
  | .bool b, out => out.insert key (Json.bool b).render
  | .number n, out => out.insert key (Json.number n).render
  | .array items, out => addItems key 0 items out
  | .object members, out => addMembers (fieldKey key) members out

def addItems (key : String) (index : Nat) : List Json → Properties → Properties
  | [], out => out
  | v :: vs, out => addItems key (index + 1) vs (addValue (itemKey key index) v out)

/-- Adds the properties of members, each under the key made of its name. -/
def addMembers (keyOf : String → String) : List (String × Json) → Properties → Properties
  | [], out => out
  | (name, v) :: ms, out => addMembers keyOf ms (addValue (keyOf name) v out)

end

/-- The properties of an object, given by its members. -/
def flatten (members : List (String × Json)) : Properties := addMembers id members ∅

end SecretLayers.Properties
