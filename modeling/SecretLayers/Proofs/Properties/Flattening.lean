import SecretLayers.Proofs.Json.Leaves
import SecretLayers.Proofs.Properties.Lookup
import SecretLayers.Properties.Flatten
/-!
What flattening keeps. Every leaf of an object gives a property under its spelled path, and the last
leaf that is visited counts where several are spelled alike. That takes a point or an opening
bracket in a name: without these a spelled path can be read back, and no leaf is lost.
-/
namespace SecretLayers
set_option autoImplicit false

namespace Json

/-! ## Spelled paths -/

def Step.spell : Step → String
  | .field name => "." ++ name
  | .item i => "[" ++ toString i ++ "]"

def spellSteps : Path → String
  | [] => ""
  | step :: p => step.spell ++ spellSteps p

/-- The name of the first member, and then the steps from there. -/
def spell : Path → String
  | .field name :: p => name ++ spellSteps p
  | p => spellSteps p

def isMark (c : Char) : Bool := c == '.' || c == '['

/-- No name holds a point or an opening bracket. -/
def Unmarked (members : List (String × Json)) : Prop :=
  ∀ m ∈ members, '.' ∉ m.1.toList ∧ '[' ∉ m.1.toList

instance : DecidablePred Unmarked := fun members =>
  inferInstanceAs (Decidable (∀ m ∈ members, '.' ∉ m.1.toList ∧ '[' ∉ m.1.toList))

/-- So it is in all objects of a value. -/
def Plain (v : Json) : Prop := v.Everywhere Unmarked

/-! ## Reading spelled paths back -/

def Step.mark : Step → Char
  | .field _ => '.'
  | .item _ => '['

def Step.body : Step → List Char
  | .field name => name.toList
  | .item i => (toString i).toList ++ [']']

def Step.IsPlain (step : Step) : Prop := ∀ c ∈ step.body, isMark c = false

theorem Step.toList_spell (step : Step) : step.spell.toList = step.mark :: step.body := by
  cases step with
  | field name => exact String.toList_append
  | item i =>
    simp only [spell, String.toList_append]
    rfl

theorem Step.isMark_mark (step : Step) : isMark step.mark = true := by
  cases step <;> rfl

theorem Step.eq_of_body {a b : Step} (mark : a.mark = b.mark) (body : a.body = b.body) : a = b := by
  cases a with
  | field name =>
    cases b with
    | field name' => rw [String.toList_inj.1 body]
    | item j => exact absurd mark (by decide : '.' ≠ '[')
  | item i =>
    cases b with
    | field name' => exact absurd mark (by decide : '[' ≠ '.')
    | item j =>
      have digits : (Nat.repr i).toList = (Nat.repr j).toList := List.append_cancel_right body
      rw [Nat.toList_repr, Nat.toList_repr] at digits
      have same : i = j := by
        rw [← Nat.ofDigitChars_ten_toDigits (n := i), digits, Nat.ofDigitChars_ten_toDigits]
      rw [same]

theorem Step.isPlain_item (i : Nat) : (Step.item i).IsPlain := by
  intro c hc
  rcases List.mem_append.1 hc with digit | closing
  · have h : c ∈ Nat.toDigits 10 i := by
      rw [← Nat.toList_repr]
      exact digit
    have isDigit := Nat.isDigit_of_mem_toDigits (by decide) (by decide) h
    rw [isMark, Bool.or_eq_false_iff, beq_eq_false_iff_ne, beq_eq_false_iff_ne]
    constructor <;> rintro rfl <;> cases isDigit
  · rw [List.mem_singleton.1 closing]
    rfl

theorem Step.isPlain_field {name : String} (point : '.' ∉ name.toList) (bracket : '[' ∉ name.toList) :
    (Step.field name).IsPlain := by
  intro c hc
  rw [isMark, Bool.or_eq_false_iff, beq_eq_false_iff_ne, beq_eq_false_iff_ne]
  constructor <;> rintro rfl
  · exact point hc
  · exact bracket hc

/-- What stands in front of the next mark can be told from what follows. -/
theorem cut_at_mark {a b x y : List Char} (ha : ∀ c ∈ a, isMark c = false)
    (hb : ∀ c ∈ b, isMark c = false) (hx : x.takeWhile (fun c => !isMark c) = [])
    (hy : y.takeWhile (fun c => !isMark c) = []) (h : a ++ x = b ++ y) : a = b ∧ x = y := by
  have front {u v : List Char} (hu : ∀ c ∈ u, isMark c = false)
      (hv : v.takeWhile (fun c => !isMark c) = []) : (u ++ v).takeWhile (fun c => !isMark c) = u := by
    rw [List.takeWhile_append_of_pos fun c hc => by rw [hu c hc]; rfl, hv, List.append_nil]
  have same : a = b := by rw [← front ha hx, h, front hb hy]
  subst same
  exact ⟨rfl, List.append_cancel_left h⟩

theorem takeWhile_spellSteps (p : Path) :
    (spellSteps p).toList.takeWhile (fun c => !isMark c) = [] := by
  cases p with
  | nil => rfl
  | cons step p =>
    rw [spellSteps, String.toList_append, step.toList_spell, List.cons_append,
      List.takeWhile_cons_of_neg (by simp [step.isMark_mark])]

theorem spellSteps_inj {p q : Path} (hp : ∀ step ∈ p, step.IsPlain) (hq : ∀ step ∈ q, step.IsPlain)
    (h : spellSteps p = spellSteps q) : p = q := by
  induction p generalizing q with
  | nil =>
    cases q with
    | nil => rfl
    | cons b q =>
      have chars := congrArg String.toList h
      rw [spellSteps, spellSteps, String.toList_append, b.toList_spell] at chars
      cases chars
  | cons a p ih =>
    cases q with
    | nil =>
      have chars := congrArg String.toList h
      rw [spellSteps, spellSteps, String.toList_append, a.toList_spell] at chars
      cases chars
    | cons b q =>
      have chars := congrArg String.toList h
      rw [spellSteps, spellSteps, String.toList_append, String.toList_append, a.toList_spell,
        b.toList_spell, List.cons_append, List.cons_append, List.cons.injEq] at chars
      obtain ⟨mark, rest⟩ := chars
      obtain ⟨plainA, plainP⟩ := List.forall_mem_cons.1 hp
      obtain ⟨plainB, plainQ⟩ := List.forall_mem_cons.1 hq
      obtain ⟨body, rest⟩ := cut_at_mark plainA plainB (takeWhile_spellSteps p)
        (takeWhile_spellSteps q) rest
      rw [Step.eq_of_body mark body, ih plainP plainQ (String.toList_inj.1 rest)]

theorem spell_inj {a b : String} {p q : Path} (hp : ∀ step ∈ .field a :: p, step.IsPlain)
    (hq : ∀ step ∈ .field b :: q, step.IsPlain) (h : spell (.field a :: p) = spell (.field b :: q)) :
    Step.field a :: p = .field b :: q := by
  -- The first name is spelled without its point: with the point on both sides, all is steps.
  apply spellSteps_inj hp hq
  show "." ++ a ++ spellSteps p = "." ++ b ++ spellSteps q
  rw [String.append_assoc, String.append_assoc]
  exact congrArg ("." ++ ·) h

theorem Leaf.isPlain {v : Json} {p : Path} {s : String} (h : v.Leaf p s) (plain : v.Plain) :
    ∀ step ∈ p, step.IsPlain := by
  obtain ⟨w, stands, -⟩ := h
  induction stands with
  | here v => simp
  | item at_i inner ih =>
    have parts := everywhere_array_iff.1 plain
    exact List.forall_mem_cons.2 ⟨Step.isPlain_item _, ih (parts _ (List.mem_of_getElem? at_i))⟩
  | field mem inner ih =>
    obtain ⟨names, parts⟩ := everywhere_object_iff.1 plain
    obtain ⟨point, bracket⟩ := names _ mem
    exact List.forall_mem_cons.2 ⟨Step.isPlain_field point bracket, ih (parts _ mem)⟩

/-- In an object without marks in its names no two leaves are spelled alike. -/
theorem leaf_inj {members : List (String × Json)} (plain : (object members).Plain) {p q : Path}
    {s t : String} (hp : (object members).Leaf p s) (hq : (object members).Leaf q t)
    (h : spell p = spell q) : p = q := by
  have plainP := hp.isPlain plain
  have plainQ := hq.isPlain plain
  obtain ⟨m, -, p', rfl, -⟩ := leaf_object_iff.1 hp
  obtain ⟨n, -, q', rfl, -⟩ := leaf_object_iff.1 hq
  exact spell_inj plainP plainQ h

end Json

namespace Properties
open Json (Leaf Path Stands spell spellSteps under)

/-! ## Properties by leaves -/

/-- The properties of leaves that stand behind a key. -/
def behind (key : String) (leaves : List (Path × String)) : List (String × String) :=
  leaves.map fun leaf => (key ++ spellSteps leaf.1, leaf.2)

theorem behind_item (key : String) (i : Nat) (leaves : List (Path × String)) :
    behind (itemKey key i) leaves = behind key (leaves.map (under (.item i))) := by
  rw [behind, behind, List.map_map]
  apply List.map_congr_left
  intro leaf _
  show (itemKey key i ++ spellSteps leaf.1, leaf.2) =
    (key ++ ("[" ++ toString i ++ "]" ++ spellSteps leaf.1), leaf.2)
  rw [itemKey]
  simp only [String.append_assoc]

theorem behind_field (key name : String) (leaves : List (Path × String)) :
    behind (fieldKey key name) leaves = behind key (leaves.map (under (.field name))) := by
  rw [behind, behind, List.map_map]
  apply List.map_congr_left
  intro leaf _
  show (fieldKey key name ++ spellSteps leaf.1, leaf.2) =
    (key ++ ("." ++ name ++ spellSteps leaf.1), leaf.2)
  rw [fieldKey]
  simp only [String.append_assoc]

/-- A value is visited at any key as it is by itself. -/
def Visits (v : Json) : Prop :=
  ∀ key out, addValue key v out = extend out (behind key v.leaves)

theorem addItems_eq {items : List Json} (visits : ∀ v ∈ items, Visits v) (key : String) (i : Nat)
    (out : Properties) : addItems key i items out = out.extend (behind key (Json.itemLeaves i items)) := by
  induction items generalizing i out with
  | nil => rfl
  | cons v items ih =>
    obtain ⟨first, rest⟩ := List.forall_mem_cons.1 visits
    rw [addItems, first, ih rest, behind_item, ← extend_append, Json.itemLeaves]
    simp only [behind, List.map_append]

theorem addMembers_eq {members : List (String × Json)} (visits : ∀ m ∈ members, Visits m.2)
    (keyOf : String → String) (out : Properties) :
    addMembers keyOf members out = out.extend (members.flatMap fun m => behind (keyOf m.1) m.2.leaves) := by
  induction members generalizing out with
  | nil => rfl
  | cons m members ih =>
    obtain ⟨first, rest⟩ := List.forall_mem_cons.1 visits
    rw [addMembers, first, ih rest, List.flatMap_cons, extend_append]

theorem behind_fields (key : String) (members : List (String × Json)) :
    (members.flatMap fun m => behind (fieldKey key m.1) m.2.leaves) =
      behind key (Json.memberLeaves members) := by
  rw [Json.memberLeaves_eq, behind, List.map_flatMap]
  apply List.flatMap_congr
  intro m _
  exact behind_field key m.1 m.2.leaves

theorem visits (v : Json) : Visits v := by
  induction v using Json.induct with
  | single v s h =>
    intro key out
    have alone : behind key [([], s)] = [(key, s)] := by simp [behind, spellSteps]
    rw [Json.leaves_of_scalar? h, alone]
    cases v with
    | null | array items | object members => cases h
    | bool b | number n | string t =>
      cases h
      rfl
  | null =>
    intro key out
    rfl
  | array items ih =>
    intro key out
    exact addItems_eq ih key 0 out
  | object members ih =>
    intro key out
    rw [addValue, addMembers_eq ih, behind_fields, Json.leaves]

/-- Flattening takes the leaves in turn, each under its spelled path. -/
theorem flatten_eq (members : List (String × Json)) :
    flatten members = ofPairs ((Json.object members).leaves.map fun leaf => (spell leaf.1, leaf.2)) := by
  rw [flatten, addMembers_eq (fun m _ => visits m.2), ofPairs, Json.leaves, Json.memberLeaves_eq,
    List.map_flatMap]
  congr 1
  apply List.flatMap_congr
  intro m _
  rw [List.map_map]
  rfl

/-- An empty part adds nothing. -/
theorem addValue_of_isVoid {v : Json} (void : v.isVoid = true) (key : String) (out : Properties) :
    addValue key v out = out := by
  have none : v.leaves = [] := by
    apply List.eq_nil_iff_forall_not_mem.2
    intro leaf h
    exact Json.not_leaf_of_isVoid void ((v.mem_leaves_iff leaf.1 leaf.2).1 h)
  rw [visits v, none]
  rfl

section
variable {members : List (String × Json)} {key s : String}

theorem mem_flatten_iff :
    key ∈ flatten members ↔ ∃ p s, (Json.object members).Leaf p s ∧ spell p = key := by
  rw [flatten_eq, mem_ofPairs_iff]
  constructor
  · rintro ⟨x, hx, same⟩
    obtain ⟨⟨p, s⟩, hl, rfl⟩ := List.mem_map.1 hx
    exact ⟨p, s, (Json.mem_leaves_iff _ p s).1 hl, same⟩
  · rintro ⟨p, s, hl, same⟩
    exact ⟨(spell p, s), List.mem_map.2 ⟨(p, s), (Json.mem_leaves_iff _ p s).2 hl, rfl⟩, same⟩

/-- The last leaf of a key counts. -/
theorem getElem?_flatten_iff (ordered : (Json.object members).Ordered) :
    (flatten members)[key]? = some s ↔ ∃ p, (Json.object members).Leaf p s ∧ spell p = key ∧
      ∀ q t, (Json.object members).Leaf q t → spell q = key → q = p ∨ Json.Before q p := by
  have visited := Json.leaves_pairwise _ ordered
  rw [flatten_eq, getElem?_ofPairs_iff]
  constructor
  · rintro ⟨before, after, h, others⟩
    obtain ⟨front, rest, hl, rfl, hrest⟩ := List.map_eq_append_iff.1 h
    obtain ⟨⟨p, t⟩, back, rfl, hp, rfl⟩ := List.map_eq_cons_iff.1 hrest
    obtain ⟨rfl, rfl⟩ := Prod.mk.inj hp
    refine ⟨p, (Json.mem_leaves_iff _ p t).1 (by rw [hl]; simp), rfl, ?_⟩
    intro q u hq same
    have mem := (Json.mem_leaves_iff _ q u).2 hq
    rw [hl] at mem visited
    rcases List.mem_append.1 mem with mem | mem
    · exact .inr ((List.pairwise_append.1 visited).2.2 _ mem (p, t) List.mem_cons_self)
    · rcases List.mem_cons.1 mem with mem | mem
      · exact .inl (Prod.mk.inj mem).1
      · exact absurd same (others (spell q, u) (List.mem_map.2 ⟨(q, u), mem, rfl⟩))
  · rintro ⟨p, hp, rfl, last⟩
    obtain ⟨front, back, hl⟩ := List.append_of_mem ((Json.mem_leaves_iff _ p s).2 hp)
    refine ⟨_, _, by rw [hl, List.map_append, List.map_cons], ?_⟩
    intro x hx same
    obtain ⟨⟨q, t⟩, mem, rfl⟩ := List.mem_map.1 hx
    have later : Json.Before p q := by
      rw [hl] at visited
      exact (List.pairwise_cons.1 (List.pairwise_append.1 visited).2.1).1 _ mem
    have hq : (Json.object members).Leaf q t := (Json.mem_leaves_iff _ q t).1 (by rw [hl]; simp [mem])
    rcases last q t hq same with rfl | sooner
    · exact Json.not_before later later
    · exact Json.not_before later sooner

/-- Without marks in the names there are as many properties as leaves. -/
theorem size_flatten (ordered : (Json.object members).Ordered) (plain : (Json.object members).Plain) :
    (flatten members).size = (Json.object members).leaves.length := by
  rw [flatten_eq, size_ofPairs, List.length_map]
  rw [List.map_map, List.nodup_iff_pairwise_ne, List.pairwise_map]
  refine (Json.leaves_pairwise _ ordered).imp_of_mem ?_
  rintro ⟨p, s⟩ ⟨q, t⟩ hp hq before same
  have eq : p = q := Json.leaf_inj plain ((Json.mem_leaves_iff _ p s).1 hp)
    ((Json.mem_leaves_iff _ q t).1 hq) same
  subst eq
  exact Json.not_before before before

/-- The keys are the spelled paths of the leaves, and the last leaf of a key gives its value.
Nothing comes of empty parts. Where no name holds a mark, no leaf hides another. -/
theorem flatten_spells_leaves (ordered : (Json.object members).Ordered) :
    (∀ k, k ∈ flatten members ↔ ∃ p s, (Json.object members).Leaf p s ∧ spell p = k) ∧
    (∀ k s, (flatten members)[k]? = some s ↔ ∃ p, (Json.object members).Leaf p s ∧ spell p = k ∧
      ∀ q t, (Json.object members).Leaf q t → spell q = k → q = p ∨ Json.Before q p) ∧
    (∀ p v, Stands (.object members) p v → v.isVoid = true →
      (∀ key out, addValue key v out = out) ∧ ∀ q s, ¬ (Json.object members).Leaf (p ++ q) s) ∧
    ((Json.object members).leaves.Pairwise (fun a b => Json.Before a.1 b.1) ∧
      ∀ p s, (p, s) ∈ (Json.object members).leaves ↔ (Json.object members).Leaf p s) ∧
    ((Json.object members).Plain →
      (∀ p q s t, (Json.object members).Leaf p s → (Json.object members).Leaf q t →
        spell p = spell q → p = q) ∧
      (flatten members).size = (Json.object members).leaves.length ∧
      ∀ p s, (Json.object members).Leaf p s → (flatten members)[spell p]? = some s) := by
  refine ⟨fun k => mem_flatten_iff, fun k s => getElem?_flatten_iff ordered, ?_, ?_, ?_⟩
  · intro p v stands void
    exact ⟨addValue_of_isVoid void, fun q s => Json.not_leaf_below ordered stands void⟩
  · exact ⟨Json.leaves_pairwise _ ordered, Json.mem_leaves_iff _⟩
  · intro plain
    refine ⟨fun p q s t hp hq => Json.leaf_inj plain hp hq, size_flatten ordered plain, ?_⟩
    intro p s hp
    refine (getElem?_flatten_iff ordered).2 ⟨p, hp, rfl, ?_⟩
    intro q t hq same
    exact .inl (Json.leaf_inj plain hq hp same)

end

def settings : List (String × Json) :=
  [("port", .number (.natural 5432)),
    ("tls", .object [("ciphers", .array [.string "a", .null, .string "b"]), ("enabled", .bool true)])]

theorem everywhere_settings {P : List (String × Json) → Prop} (here : P settings)
    (tls : P [("ciphers", .array [.string "a", .null, .string "b"]), ("enabled", .bool true)]) :
    (Json.object settings).Everywhere P := by
  refine Json.everywhere_object_iff.2 ⟨here, List.forall_mem_cons.2 ⟨?_, List.forall_mem_singleton.2 ?_⟩⟩
  · exact Json.everywhere_of_scalar? rfl
  · refine Json.everywhere_object_iff.2 ⟨tls, List.forall_mem_cons.2 ⟨?_, List.forall_mem_singleton.2 ?_⟩⟩
    · rw [Json.everywhere_array_iff]
      refine List.forall_mem_cons.2 ⟨Json.everywhere_of_scalar? rfl, List.forall_mem_cons.2 ⟨?_, ?_⟩⟩
      · exact Json.everywhere_null
      · exact List.forall_mem_singleton.2 (Json.everywhere_of_scalar? rfl)
    · exact Json.everywhere_of_scalar? rfl

def settingsText : String :=
  "\x7b\"tls\":\x7b\"enabled\":true,\"ciphers\":[\"a\",null,\"b\"]\x7d,\"port\":5432\x7d"

/-- A test for the settings that can be run: documents have no decidable equality. -/
def isSettings : Option Json → Bool
  | some (.object [("port", .number (.natural 5432)),
      ("tls", .object [("ciphers", .array [.string "a", .null, .string "b"]), ("enabled", .bool true)])]) =>
    true
  | _ => false

theorem eq_of_isSettings {v : Option Json} (h : isSettings v = true) : v = some (.object settings) := by
  unfold isSettings at h
  split at h
  · rfl
  · cases h

theorem parse_settingsText : Json.parse? settingsText = some (.object settings) :=
  eq_of_isSettings (by decide +kernel)

/-- What is read from a text is ordered, whatever the order in the text. -/
theorem flatten_spells_leaves_settings :
    Json.parse? settingsText = some (.object settings) ∧
      (Json.object settings).Ordered ∧ (Json.object settings).Plain ∧ (flatten settings).size = 4 ∧
      (flatten settings)["tls.ciphers[2]"]? = some "b" := by
  have ordered : (Json.object settings).Ordered := Json.ordered_of_parse? parse_settingsText
  have plain : (Json.object settings).Plain := everywhere_settings (by decide) (by decide)
  obtain ⟨-, -, -, ⟨-, visited⟩, distinct⟩ := flatten_spells_leaves ordered
  obtain ⟨-, size, values⟩ := distinct plain
  refine ⟨parse_settingsText, ordered, plain, size, ?_⟩
  exact values [.field "tls", .field "ciphers", .item 2] "b" ((visited _ _).1 (by decide))

/-- A name with a point in it takes the place of a nested member. -/
example : (flatten [("a", .object [("b", .string "1")]), ("a.b", .string "2")])["a.b"]? = some "2" := by
  cbv

end Properties
end SecretLayers
