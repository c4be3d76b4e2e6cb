import Mathlib.Data.List.Basic
import Mathlib.Data.List.Lex
import SecretLayers.Json.Printer
import SecretLayers.Json.Tree
/-!
Leaves of a value: its texts, flags and numbers, each with the way that leads to it. They are
visited in the order of their ways, names by the order of texts and positions by number. A way
spelled with points and brackets can be read back, if no name holds a point or an opening bracket.
-/
namespace SecretLayers.Json
set_option autoImplicit false

/-! ## Ways into a value -/

/-- A step into a container. -/
inductive Step where
  | field (name : String)
  | item (index : Nat)
  deriving DecidableEq

abbrev Path := List Step

/-- One value stands in another at the end of a path. -/
inductive Stands : Json → Path → Json → Prop
  | here (v : Json) : Stands v [] v
  | item {items : List Json} {i : Nat} {v w : Json} {p : Path} (at_i : items[i]? = some v)
      (inner : Stands v p w) : Stands (.array items) (.item i :: p) w
  | field {members : List (String × Json)} {name : String} {v w : Json} {p : Path}
      (mem : (name, v) ∈ members) (inner : Stands v p w) :
      Stands (.object members) (.field name :: p) w

/-- The text of a text, a flag or a number. -/
def scalar? : Json → Option String
  | .string s => some s
  | .bool b => some (Json.bool b).render
  | .number n => some (Json.number n).render
  | .null | .array _ | .object _ => none

/-- Nothing, or a container without parts. -/
def isVoid : Json → Bool
  | .null | .array [] | .object [] => true
  | _ => false

/-- At a path stands a scalar, with its text. -/
def Leaf (v : Json) (p : Path) (s : String) : Prop := ∃ w, v.Stands p w ∧ w.scalar? = some s

/-- All objects in a value are so. -/
def Everywhere (P : List (String × Json) → Prop) (v : Json) : Prop :=
  ∀ p members, v.Stands p (.object members) → P members

/-- The members of every object are in ascending order. -/
def Ordered (v : Json) : Prop := v.Everywhere Ascending

instance : DecidablePred Ascending := fun members =>
  inferInstanceAs (Decidable (members.Pairwise fun a b => a.1 < b.1))

section
variable {P : List (String × Json) → Prop} {p : Path} {s : String}

/-- What holds of a container if it holds of its parts, and of all else, holds of every value. -/
theorem induct {Q : Json → Prop} (single : ∀ v s, v.scalar? = some s → Q v) (null : Q .null)
    (array : ∀ items, (∀ v ∈ items, Q v) → Q (.array items))
    (object : ∀ members, (∀ m ∈ members, Q m.2) → Q (.object members)) : ∀ v, Q v
  | .null => null
  | .bool b => single _ _ rfl
  | .number n => single _ _ rfl
  | .string t => single _ _ rfl
  | .array items => array items fun v hv =>
      have : sizeOf v < sizeOf items := List.sizeOf_lt_of_mem hv
      induct single null array object v
  | .object members => object members fun m hm =>
      have : sizeOf m < sizeOf members := List.sizeOf_lt_of_mem hm
      have : sizeOf m.2 < sizeOf m := by cases m; simp +arith
      induct single null array object m.2

theorem leaf_of_scalar? {v : Json} {t : String} (h : v.scalar? = some t) :
    v.Leaf p s ↔ p = [] ∧ s = t := by
  constructor
  · rintro ⟨w, stands, hs⟩
    cases stands with
    | here => exact ⟨rfl, Option.some.inj (hs.symm.trans h)⟩
    | item | field => cases h
  · rintro ⟨rfl, rfl⟩
    exact ⟨v, .here v, h⟩

theorem not_leaf_null : ¬ Leaf .null p s := by
  rintro ⟨w, stands, hs⟩
  cases stands
  cases hs

theorem leaf_array_iff {items : List Json} :
    (array items).Leaf p s ↔ ∃ i v q, items[i]? = some v ∧ p = .item i :: q ∧ v.Leaf q s := by
  constructor
  · rintro ⟨w, stands, hs⟩
    cases stands with
    | here => cases hs
    | item at_i inner => exact ⟨_, _, _, at_i, rfl, w, inner, hs⟩
  · rintro ⟨i, v, q, at_i, rfl, w, inner, hs⟩
    exact ⟨w, .item at_i inner, hs⟩

theorem leaf_object_iff {members : List (String × Json)} :
    (object members).Leaf p s ↔ ∃ m ∈ members, ∃ q, p = .field m.1 :: q ∧ m.2.Leaf q s := by
  constructor
  · rintro ⟨w, stands, hs⟩
    cases stands with
    | here => cases hs
    | field mem inner => exact ⟨_, mem, _, rfl, w, inner, hs⟩
  · rintro ⟨m, mem, q, rfl, w, inner, hs⟩
    exact ⟨w, .field mem inner, hs⟩

/-! ## What holds of all objects in a value -/

theorem everywhere_of_scalar? {v : Json} {t : String} (h : v.scalar? = some t) : v.Everywhere P := by
  intro p members stands
  cases stands <;> cases h

theorem everywhere_null : Everywhere P .null := by
  intro p members stands
  cases stands

theorem everywhere_array_iff {items : List Json} :
    (array items).Everywhere P ↔ ∀ v ∈ items, v.Everywhere P := by
  constructor
  · intro h v hv p members stands
    obtain ⟨i, at_i⟩ := List.mem_iff_getElem?.1 hv
    exact h (.item i :: p) members (.item at_i stands)
  · intro h p members stands
    cases stands with
    | item at_i inner => exact h _ (List.mem_of_getElem? at_i) _ members inner

theorem everywhere_object_iff {members : List (String × Json)} :
    (object members).Everywhere P ↔ P members ∧ ∀ m ∈ members, m.2.Everywhere P := by
  constructor
  · intro h
    exact ⟨h [] members (.here _), fun m hm p inner stands => h (.field m.1 :: p) inner (.field hm stands)⟩
  · rintro ⟨here, below⟩ p inner stands
    cases stands with
    | here => exact here
    | field mem stands => exact below _ mem _ inner stands

/-! ## Values that are read -/

theorem mem_of_mem_sortMembers {members : List (String × Json)} {m : String × Json}
    (h : m ∈ sortMembers members) : m ∈ members := by
  have grows (all sorted : List (String × Json))
      (h : m ∈ all.foldl (fun sorted m => insertMember m.1 m.2 sorted) sorted) :
      m ∈ all ∨ m ∈ sorted := by
    induction all generalizing sorted with
    | nil => exact .inr h
    | cons a all ih =>
      rcases ih _ h with later | inserted
      · exact .inl (List.mem_cons_of_mem a later)
      · rcases mem_insertMember inserted with rfl | before
        · exact .inl List.mem_cons_self
        · exact .inr before
  have h := grows members [] h
  simpa using h

mutual

/-- A value that is read from a text has its members in order. -/
theorem Tree.ordered {room : Nat} {v : Json} : ∀ {t : Tree}, t.value? room = some v → v.Ordered
  | .null, h => by
    cases h
    exact everywhere_null
  | .bool b, h => by
    cases h
    exact everywhere_of_scalar? rfl
  | .numeral n, h => by
    obtain ⟨x, -, rfl⟩ := Option.map_eq_some_iff.1 h
    exact everywhere_of_scalar? rfl
  | .string t, h => by
    obtain ⟨x, -, rfl⟩ := Option.map_eq_some_iff.1 h
    exact everywhere_of_scalar? rfl
  | .array ts, h => by
    rw [Tree.value?] at h
    split at h
    · cases h
    · obtain ⟨vs, hvs, rfl⟩ := Option.map_eq_some_iff.1 h
      exact everywhere_array_iff.2 (Tree.ordered_values hvs)
  | .object ts, h => by
    rw [Tree.value?] at h
    split at h
    · cases h
    · obtain ⟨ms, hms, rfl⟩ := Option.map_eq_some_iff.1 h
      refine everywhere_object_iff.2 ⟨ascending_sortMembers ms, fun m hm => ?_⟩
      exact Tree.ordered_members hms m (mem_of_mem_sortMembers hm)

theorem Tree.ordered_values {room : Nat} {vs : List Json} :
    ∀ {ts : List Tree}, Tree.values? room ts = some vs → ∀ v ∈ vs, v.Ordered
  | [], h => by
    cases h
    simp
  | t :: ts, h => by
    simp only [Tree.values?, Option.bind_eq_bind, Option.bind_eq_some_iff] at h
    obtain ⟨v, hv, rest, hrest, h⟩ := h
    cases h
    exact List.forall_mem_cons.2 ⟨Tree.ordered hv, Tree.ordered_values hrest⟩

theorem Tree.ordered_members {room : Nat} {ms : List (String × Json)} :
    ∀ {ts : List (Option String × Tree)}, Tree.members? room ts = some ms → ∀ m ∈ ms, m.2.Ordered
  | [], h => by
    cases h
    simp
  | (name, t) :: ts, h => by
    simp only [Tree.members?, Option.bind_eq_bind, Option.bind_eq_some_iff] at h
    obtain ⟨name, -, v, hv, rest, hrest, h⟩ := h
    cases h
    exact List.forall_mem_cons.2 ⟨Tree.ordered hv, Tree.ordered_members hrest⟩

end

theorem ordered_of_parse? {text : String} {v : Json} (h : parse? text = some v) : v.Ordered := by
  obtain ⟨t, -, hv⟩ := Option.bind_eq_some_iff.1 h
  exact Tree.ordered hv

/-! ## What stands at one path -/

theorem ascending_unique {members : List (String × Json)} (h : Ascending members) {name : String}
    {v w : Json} (hv : (name, v) ∈ members) (hw : (name, w) ∈ members) : v = w := by
  induction members with
  | nil => cases hv
  | cons m members ih =>
    obtain ⟨first, rest⟩ := List.pairwise_cons.1 h
    rcases List.mem_cons.1 hv with hv | hv
    · rcases List.mem_cons.1 hw with hw | hw
      · exact (Prod.mk.inj (hv.trans hw.symm)).2
      · have lt := first _ hw
        rw [← hv] at lt
        exact absurd lt (String.lt_irrefl name)
    · rcases List.mem_cons.1 hw with hw | hw
      · have lt := first _ hv
        rw [← hw] at lt
        exact absurd lt (String.lt_irrefl name)
      · exact ih rest hv hw

/-- What stands below a path stands in what stands at the path. -/
theorem Stands.inside {v w x : Json} {q : Path} (h : v.Stands p w) (ordered : v.Ordered)
    (h' : v.Stands (p ++ q) x) : w.Stands q x := by
  induction h with
  | here v => exact h'
  | item at_i inner ih =>
    rw [List.cons_append] at h'
    cases h' with
    | item at_i' inner' =>
      obtain rfl := Option.some.inj (at_i.symm.trans at_i')
      exact ih (everywhere_array_iff.1 ordered _ (List.mem_of_getElem? at_i)) inner'
  | field mem inner ih =>
    rw [List.cons_append] at h'
    obtain ⟨ascending, parts⟩ := everywhere_object_iff.1 ordered
    cases h' with
    | field mem' inner' =>
      obtain rfl := ascending_unique ascending mem mem'
      exact ih (parts _ mem) inner'

theorem not_leaf_of_isVoid {v : Json} (void : v.isVoid = true) : ¬ v.Leaf p s := by
  unfold isVoid at void
  split at void
  · exact not_leaf_null
  · rw [leaf_array_iff]
    rintro ⟨i, v, q, at_i, -⟩
    cases at_i
  · rw [leaf_object_iff]
    rintro ⟨m, mem, -⟩
    cases mem
  · cases void

/-- Nothing below an empty part is a leaf. -/
theorem not_leaf_below {v w : Json} {q : Path} (ordered : v.Ordered) (h : v.Stands p w)
    (void : w.isVoid = true) : ¬ v.Leaf (p ++ q) s := by
  rintro ⟨x, stands, hs⟩
  exact not_leaf_of_isVoid void ⟨x, h.inside ordered stands, hs⟩

/-! ## Visiting the leaves -/

/-- A leaf of a part, as a leaf of the whole. -/
def under (step : Step) (leaf : Path × String) : Path × String := (step :: leaf.1, leaf.2)

mutual

/-- The leaves in the order in which they are visited. -/
def leaves : Json → List (Path × String)
  | .null => []
  | .string s => [([], s)]
  | .bool b => [([], (Json.bool b).render)]
  | .number n => [([], (Json.number n).render)]
  | .array items => itemLeaves 0 items
  | .object members => memberLeaves members

def itemLeaves (i : Nat) : List Json → List (Path × String)
  | [] => []
  | v :: vs => v.leaves.map (under (.item i)) ++ itemLeaves (i + 1) vs

def memberLeaves : List (String × Json) → List (Path × String)
  | [] => []
  | (name, v) :: ms => v.leaves.map (under (.field name)) ++ memberLeaves ms

end

/-- One step comes before another of the same container. -/
inductive Step.Before : Step → Step → Prop
  | field {a b : String} (lt : a < b) : Before (.field a) (.field b)
  | item {i j : Nat} (lt : i < j) : Before (.item i) (.item j)

/-- One path is visited before another. -/
def Before (p q : Path) : Prop := List.Lex Step.Before p q

theorem Step.not_before {a b : Step} (h : Before a b) : ¬ Before b a := by
  intro h'
  cases h with
  | field lt =>
    cases h' with
    | field lt' => exact String.lt_asymm lt lt'
  | item lt =>
    cases h' with
    | item lt' => omega

instance : Std.Asymm Step.Before := ⟨fun _ _ => Step.not_before⟩

theorem not_before {p q : Path} (h : Before p q) : ¬ Before q p := asymm_of (List.Lex Step.Before) h

theorem leaves_of_scalar? {v : Json} {t : String} (h : v.scalar? = some t) : v.leaves = [([], t)] := by
  cases v with
  | null | array items | object members => cases h
  | bool b | number n | string u =>
    cases h
    rfl

theorem itemLeaves_eq (i : Nat) (items : List Json) :
    itemLeaves i items = (items.zipIdx i).flatMap fun x => x.1.leaves.map (under (.item x.2)) := by
  induction items generalizing i with
  | nil => rfl
  | cons v items ih => rw [itemLeaves, ih, List.zipIdx_cons, List.flatMap_cons]

theorem memberLeaves_eq (members : List (String × Json)) :
    memberLeaves members = members.flatMap fun m => m.2.leaves.map (under (.field m.1)) := by
  induction members with
  | nil => rfl
  | cons m members ih => rw [memberLeaves, ih, List.flatMap_cons]

/-- The leaves that are visited are the leaves. -/
theorem mem_leaves_iff (v : Json) : ∀ p s, (p, s) ∈ v.leaves ↔ v.Leaf p s := by
  induction v using induct with
  | single v t h =>
    intro p s
    rw [leaves_of_scalar? h, leaf_of_scalar? h, List.mem_singleton, Prod.mk.injEq]
  | null =>
    intro p s
    exact iff_of_false List.not_mem_nil not_leaf_null
  | array items ih =>
    intro p s
    rw [leaf_array_iff, leaves, itemLeaves_eq, List.mem_flatMap]
    constructor
    · rintro ⟨⟨v, i⟩, hv, hl⟩
      obtain ⟨⟨q, t⟩, hq, h⟩ := List.mem_map.1 hl
      obtain ⟨rfl, rfl⟩ := Prod.mk.inj h
      have at_i := List.mem_zipIdx_iff_getElem?.1 hv
      exact ⟨i, v, q, at_i, rfl, (ih v (List.mem_of_getElem? at_i) q t).1 hq⟩
    · rintro ⟨i, v, q, at_i, rfl, hl⟩
      refine ⟨(v, i), List.mem_zipIdx_iff_getElem?.2 at_i, List.mem_map.2 ⟨(q, s), ?_, rfl⟩⟩
      exact (ih v (List.mem_of_getElem? at_i) q s).2 hl
  | object members ih =>
    intro p s
    rw [leaf_object_iff, leaves, memberLeaves_eq, List.mem_flatMap]
    constructor
    · rintro ⟨m, hm, hl⟩
      obtain ⟨⟨q, t⟩, hq, h⟩ := List.mem_map.1 hl
      obtain ⟨rfl, rfl⟩ := Prod.mk.inj h
      exact ⟨m, hm, q, rfl, (ih m hm q t).1 hq⟩
    · rintro ⟨m, hm, q, rfl, hl⟩
      exact ⟨m, hm, List.mem_map.2 ⟨(q, s), (ih m hm q s).2 hl, rfl⟩⟩

theorem pairwise_under {ls : List (Path × String)} (step : Step)
    (h : ls.Pairwise fun a b => Before a.1 b.1) :
    (ls.map (under step)).Pairwise fun a b => Before a.1 b.1 := by
  rw [List.pairwise_map]
  exact h.imp fun before => List.Lex.cons before

/-- Every leaf is visited after those whose ways come before its own. -/
theorem leaves_pairwise (v : Json) (ordered : v.Ordered) :
    v.leaves.Pairwise fun a b => Before a.1 b.1 := by
  induction v using induct with
  | single v t h =>
    rw [leaves_of_scalar? h]
    exact List.pairwise_singleton _ _
  | null => exact List.Pairwise.nil
  | array items ih =>
    rw [leaves, itemLeaves_eq, List.pairwise_flatMap]
    have parts := everywhere_array_iff.1 ordered
    constructor
    · intro x hx
      have hv : x.1 ∈ items := List.fst_mem_of_mem_zipIdx hx
      exact pairwise_under _ (ih x.1 hv (parts x.1 hv))
    · have places : (items.zipIdx 0).Pairwise fun a b => a.2 < b.2 := by
        rw [← List.pairwise_map (f := Prod.snd) (R := (· < ·)), List.zipIdx_map_snd]
        exact List.pairwise_lt_range'
      refine places.imp fun {a b} lt x hx y hy => ?_
      obtain ⟨l, -, rfl⟩ := List.mem_map.1 hx
      obtain ⟨l', -, rfl⟩ := List.mem_map.1 hy
      exact List.Lex.rel (.item lt)
  | object members ih =>
    rw [leaves, memberLeaves_eq, List.pairwise_flatMap]
    obtain ⟨ascending, parts⟩ := everywhere_object_iff.1 ordered
    constructor
    · intro m hm
      exact pairwise_under _ (ih m hm (parts m hm))
    · refine ascending.imp fun {a b} lt x hx y hy => ?_
      obtain ⟨l, -, rfl⟩ := List.mem_map.1 hx
      obtain ⟨l', -, rfl⟩ := List.mem_map.1 hy
      exact List.Lex.rel (.field lt)

end

end SecretLayers.Json
