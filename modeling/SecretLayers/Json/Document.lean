import SecretLayers.Document
import SecretLayers.Json.Tree
/-!
Records written in JSON.

A record is an object, or a list of its fields in their order. Numbers are checked only
where they are read.
-/
namespace SecretLayers.Json

/-- A tree, and how many levels of containers may be opened in it. -/
structure Node where
  tree : Tree
  room : Nat

namespace Node

def ofTree (tree : Tree) : Node := { tree, room := depthLimit }

def parse? (text : String) : Option Node := (Tree.parse? text).map ofTree

def inner (node : Node) (tree : Tree) : Node := { tree, room := node.room - 1 }

def number? (node : Node) : Option Number :=
  match node.tree with
  | .numeral n => n.number?
  | _ => none

def text? (node : Node) : Option String :=
  match node.tree with
  | .string s => s
  | _ => none

def items? (node : Node) : Option (List Node) :=
  match node.tree with
  | .array items => if node.room = 0 then none else some (items.map node.inner)
  | _ => none

def members? (node : Node) : Option (List (String × Node)) :=
  match node.tree with
  | .object members =>
    if node.room = 0 then none
    else members.mapM fun (name, t) => name.map (·, node.inner t)
  | _ => none

/-- A name alone, or an object whose only member has that name and no value. -/
def alternative? (node : Node) : Option String :=
  match node.tree with
  | .string s => s
  | .object [(name, .null)] => if node.room = 0 then none else name
  | _ => none

/-- The value of a node, numbers and names decided. -/
def value? (node : Node) : Option Json := node.tree.value? node.room

end Node

instance : Document Node where
  text? := Node.text?
  flag? node := match node.tree with
    | .bool b => some b
    | _ => none
  natural? node := match node.number? with
    | some (.natural n) => some n
    | _ => none
  integer? node := match node.number? with
    | some (.natural n) => if n < Nat.pow 2 31 then some n else none
    | some (.negative n) => if n ≤ Nat.pow 2 31 then some (-(n : Int)) else none
    | _ => none
  double? node := match node.number? with
    | some (.natural n) => some (.ofNat n)
    | some (.negative n) => some (.neg (.ofNat n))
    | some (.double x) => some x
    | none => none
  present? node := match node.tree with
    | .null => some none
    | _ => some (some node)
  items? := Node.items?
  members? := Node.members?
  positions? := Node.items?
  alternative? := Node.alternative?

end SecretLayers.Json
