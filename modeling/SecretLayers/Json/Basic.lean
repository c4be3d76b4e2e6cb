import SecretLayers.Number.Decimal
/-!
JSON values.

A value is what a text means: numbers are read, and the members of an object are in
strictly ascending order of their names, the last of several members of one name having
won. `Json.Tree` is what a text says, before any of that is decided.
-/
namespace SecretLayers

/-- A number of a JSON text: an integer of 64 bits if it is written as one and fits,
otherwise a double. -/
inductive Json.Number where
  | natural (n : Nat)
  | negative (n : Nat)
  | double (x : Binary64)
  deriving DecidableEq, Repr

inductive Json where
  | null
  | bool (b : Bool)
  | number (n : Json.Number)
  | string (s : String)
  | array (items : List Json)
  | object (members : List (String × Json))
  deriving Repr, Inhabited

namespace Json

/-- Adds a member to members in ascending order, replacing one of the same name. -/
def insertMember (name : String) (value : Json) : List (String × Json) → List (String × Json)
  | [] => [(name, value)]
  | (n, v) :: rest =>
    if name < n then (name, value) :: (n, v) :: rest
    else if name = n then (name, value) :: rest
    else (n, v) :: insertMember name value rest

/-- The members in ascending order, the last one of each name. -/
def sortMembers (members : List (String × Json)) : List (String × Json) :=
  members.foldl (fun sorted m => insertMember m.1 m.2 sorted) []

def ofMembers (members : List (String × Json)) : Json := .object (sortMembers members)

def ofNat (n : Nat) : Json := .number (.natural n)

def ofInt (i : Int) : Json :=
  if i < 0 then .number (.negative i.natAbs) else .number (.natural i.toNat)

/-- The text of an optional value, or null. -/
def ofOption (s : Option String) : Json :=
  s.elim .null .string

/-- The member of a name; null where there is none or the value is no object. -/
def get (v : Json) (name : String) : Json :=
  match v with
  | .object members => (members.lookup name).getD .null
  | _ => .null

/-! ## Order of members -/

/-- Names strictly ascending. -/
def Ascending (members : List (String × Json)) : Prop :=
  members.Pairwise fun a b => a.1 < b.1

theorem mem_insertMember {name : String} {value : Json} {l : List (String × Json)}
    {m : String × Json} (h : m ∈ insertMember name value l) : m = (name, value) ∨ m ∈ l := by
  induction l with
  | nil => simpa [insertMember] using h
  | cons a l ih =>
    simp only [insertMember] at h
    split at h
    · simpa using h
    · split at h
      · rcases List.mem_cons.1 h with h | h
        · exact .inl h
        · exact .inr (List.mem_cons_of_mem _ h)
      · rcases List.mem_cons.1 h with h | h
        · exact .inr (h ▸ List.mem_cons_self)
        · rcases ih h with h | h
          · exact .inl h
          · exact .inr (List.mem_cons_of_mem _ h)

theorem ascending_insertMember (name : String) (value : Json) {l : List (String × Json)}
    (h : Ascending l) : Ascending (insertMember name value l) := by
  induction l with
  | nil => simp [insertMember, Ascending]
  | cons a l ih =>
    obtain ⟨hd, tl⟩ := List.pairwise_cons.1 h
    simp only [insertMember]
    split
    · rename_i hlt
      refine List.pairwise_cons.2 ⟨fun b hb => ?_, h⟩
      rcases List.mem_cons.1 hb with hb | hb
      · exact hb ▸ hlt
      · exact String.lt_trans hlt (hd b hb)
    · split
      · rename_i heq
        exact List.pairwise_cons.2 ⟨fun b hb => heq ▸ hd b hb, tl⟩
      · rename_i hnl hne
        refine List.pairwise_cons.2 ⟨fun b hb => ?_, ih tl⟩
        rcases mem_insertMember hb with hb | hb
        · subst hb
          exact Std.lt_of_le_of_ne (String.not_lt.1 hnl) (Ne.symm hne)
        · exact hd b hb

theorem ascending_foldl (members sorted : List (String × Json)) (h : Ascending sorted) :
    Ascending (members.foldl (fun sorted m => insertMember m.1 m.2 sorted) sorted) := by
  induction members generalizing sorted with
  | nil => exact h
  | cons m members ih => exact ih _ (ascending_insertMember m.1 m.2 h)

theorem ascending_sortMembers (members : List (String × Json)) :
    Ascending (sortMembers members) :=
  ascending_foldl members [] List.Pairwise.nil

end Json
end SecretLayers
