import SecretLayers.Document
import SecretLayers.Yaml.Node
import SecretLayers.Yaml.Scalar
/-!
Records written in YAML.

A record is a mapping, and one in which nothing is written is empty. Text is the spelling
of any scalar; flags and numbers are plain, or literal blocks with the tag of their kind.
-/
namespace SecretLayers.Yaml

/-- The tag of a kind of scalar. -/
def standardTag (kind : String) : Option String := some ("tag:yaml.org,2002:" ++ kind)

namespace Node

def isBlank : Node → Bool
  | .scalar text .plain _ => text == ""
  | _ => false

def text? : Node → Option String
  | .scalar text _ _ => some text
  | _ => none

/-- The text of a scalar that can denote a value of a kind: a plain one, or a literal block
with the tag of the kind. -/
def denoting? (kind : String) : Node → Option String
  | .scalar text .plain _ => some text
  | .scalar text .literal tag => if tag = standardTag kind then some text else none
  | _ => none

/-- Nothing is written, or a plain scalar spells an absent value. A tag other than the one
for absent values makes it a value. -/
def present? : Node → Option (Option Node)
  | v@(.scalar text .plain tag) =>
    if tag = none then some (if text == "" || isNull text then none else some v)
    else if tag = standardTag "null" then (if isNull text then some none else none)
    else some (some v)
  | v => some (some v)

def items? (v : Node) : Option (List Node) :=
  match v with
  | .sequence items _ => some items
  | v => if v.isBlank then some [] else none

def members? (v : Node) : Option (List (String × Node)) :=
  match v with
  | .mapping members _ => members.mapM fun (k, v) => k.text?.map (·, v)
  | v => if v.isBlank then some [] else none

/-- A name: a scalar, or a tag of its own before nothing. -/
def alternative? : Node → Option String
  | .scalar text style tag =>
    match tag.map String.toList with
    | some ('!' :: name) =>
      if style = .plain && (text == "" || isNull text) then
        some (String.ofList (if name.isEmpty then ['!'] else name))
      else none
    | _ => some text
  | _ => none

end Node

instance : Document Node where
  text? := Node.text?
  flag? v := (v.denoting? "bool").bind flag?
  natural? v := (v.denoting? "int").bind fun s => (natural? s.toList).filter (· < Nat.pow 2 64)
  integer? v := (v.denoting? "int").bind fun s =>
    (integer? s.toList).filter fun i => -(Int.pow 2 31) ≤ i && i < Int.pow 2 31
  double? v := (v.denoting? "float").bind double?
  present? := Node.present?
  items? := Node.items?
  members? := Node.members?
  positions? _ := none
  alternative? := Node.alternative?

end SecretLayers.Yaml
