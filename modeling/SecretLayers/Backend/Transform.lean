import SecretLayers.Json.Document
import SecretLayers.Properties.Basic
/-!
How the fields of a secret become properties.
-/
namespace SecretLayers.Backend

inductive Transform where
  /-- Keys are kept. -/
  | noop
  /-- Keys with an entry are replaced by it, the others are kept. -/
  | rename (names : Properties)
  /-- Every key gets the text in front. -/
  | prepend (text : String)

namespace Transform

def newKey : Transform → String → String
  | noop, key => key
  | rename names, key => names[key]?.getD key
  | prepend text, key => text ++ key

/-- Gives every property its new key. Of several with one new key, the last in order of
the old keys counts. -/
def apply (t : Transform) (properties : Properties) : Properties :=
  match t with
  | noop => properties
  | t => .ofPairs (properties.toList.map fun (key, value) => (t.newKey key, value))

open Json in
def read? (node : Json.Node) : Option Transform :=
  match Document.alternative? node with
  | some "noop" => some noop
  | some _ => none
  | none => do
    match ← Document.members? node with
    | [("rename", names)] => (Document.textsByName names).map fun ns => rename (.ofPairs ns)
    | [("prefix", text)] => (Document.text? text).map prepend
    | _ => none

end Transform
end SecretLayers.Backend
