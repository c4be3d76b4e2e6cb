import SecretLayers.Number.Binary64
/-!
Reading records from a document, whatever notation it is written in.

A notation says what its nodes can be read as. A record then names its fields once, and
the same description reads it from every notation: members by name, or, where the notation
has lists for records, by position. Members that a record does not know are passed over.
-/
namespace SecretLayers

/-- A notation for documents, by the type of its nodes. -/
class Document (ν : Type) where
  text? : ν → Option String
  flag? : ν → Option Bool
  /-- An integer from 0 to the greatest of 64 bits. -/
  natural? : ν → Option Nat
  /-- A signed integer of 32 bits. -/
  integer? : ν → Option Int
  double? : ν → Option Binary64
  /-- The node itself, or nothing if it says that there is no value. -/
  present? : ν → Option (Option ν)
  items? : ν → Option (List ν)
  /-- Members in the written order. -/
  members? : ν → Option (List (String × ν))
  /-- The items of a record that is written as a list. -/
  positions? : ν → Option (List ν)
  /-- The name of an alternative that carries nothing. -/
  alternative? : ν → Option String

namespace Document

variable {ν α : Type}

/-- The nodes found for the fields of a record. -/
structure Fields (ν : Type) where
  nodes : List (String × ν)
  byPosition : Bool

/-- Finds the fields of a record: a known field stands at most once, a list has at most
one item a field. -/
def fields? [Document ν] (names : List String) (v : ν) : Option (Fields ν) :=
  match positions? v with
  | some items =>
    if items.length ≤ names.length then some { nodes := names.zip items, byPosition := true }
    else none
  | none => do
    let nodes := (← members? v).filter fun m => names.contains m.1
    if (nodes.map (·.1)).Nodup then some { nodes, byPosition := false } else none

namespace Fields

/-- A field that may be left out. -/
def withDefault (fs : Fields ν) (default : α) (read : ν → Option α) (name : String) : Option α :=
  match fs.nodes.lookup name with
  | some v => read v
  | none => some default

/-- A field that must be there. -/
def required (fs : Fields ν) (read : ν → Option α) (name : String) : Option α :=
  fs.nodes.lookup name |>.bind read

end Fields

/-- A value that may be said to be absent. -/
def optional [Document ν] (read : ν → Option α) (v : ν) : Option (Option α) := do
  match ← present? v with
  | none => some none
  | some v => (read v).map some

/-- A list of values of one kind. -/
def listOf [Document ν] (read : ν → Option α) (v : ν) : Option (List α) := do
  (← items? v).mapM read

/-- Texts by name, in the written order. -/
def textsByName [Document ν] (v : ν) : Option (List (String × String)) := do
  (← members? v).mapM fun (name, node) => (text? node).map (name, ·)

/-- One of several named alternatives that carry nothing. -/
def oneOf [Document ν] (names : List (String × α)) (v : ν) : Option α :=
  (alternative? v).bind fun name => names.lookup name

/-- An optional field that a record by position must nevertheless have. -/
def Fields.nullable [Document ν] (fs : Fields ν) (read : ν → Option α) (name : String) :
    Option (Option α) :=
  if fs.byPosition then fs.required (optional read) name
  else fs.withDefault none (optional read) name

end Document
end SecretLayers
