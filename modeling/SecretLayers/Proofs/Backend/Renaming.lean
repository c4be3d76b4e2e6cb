import Mathlib.Data.List.Dedup
import Mathlib.Data.List.Nodup
import Mathlib.Data.Set.Function
import Mathlib.Data.String.Basic
import SecretLayers.Backend.Transform
import SecretLayers.Proofs.Properties.Lookup
/-!
New keys for properties. Each property goes to its new key in one step, whatever keys the others
have or get. Where several go to one key the one with the greatest old key counts, so nothing is
lost just where no two of them meet. Texts in front of keys never let two of them meet.
-/
namespace SecretLayers
set_option autoImplicit false

namespace Properties

theorem keys_nodup (p : Properties) : (p.toList.map (·.1)).Nodup := by
  have keys : p.toList.map (·.1) = p.keys := Std.ExtTreeMap.map_fst_toList_eq_keys
  rw [keys]
  exact Std.ExtTreeMap.nodup_keys

theorem mem_iff_exists {p : Properties} {key : String} : key ∈ p ↔ ∃ value, (key, value) ∈ p.toList := by
  simp only [Std.ExtTreeMap.mem_toList_iff_getElem?_eq_some, Std.ExtTreeMap.mem_iff_isSome_getElem?,
    Option.isSome_iff_exists]

theorem ascending (p : Properties) : p.toList.Pairwise fun a b => a.1 < b.1 := by
  have ordered : p.toList.Pairwise fun a b => compare a.1 b.1 = .lt := Std.ExtTreeMap.ordered_keys_toList
  exact ordered.imp compareOfLessAndEq_eq_lt.1

/-- Where no two pairs have one key, all of them are there. -/
theorem toList_ofPairs_perm {pairs : List (String × String)} (distinct : (pairs.map (·.1)).Nodup) :
    (ofPairs pairs).toList.Perm pairs := by
  rw [List.perm_ext_iff_of_nodup (keys_nodup _).of_map distinct.of_map]
  rintro ⟨key, value⟩
  rw [Std.ExtTreeMap.mem_toList_iff_getElem?_eq_some, getElem?_ofPairs_iff]
  constructor
  · rintro ⟨before, after, rfl, -⟩
    simp
  · intro hmem
    obtain ⟨before, after, rfl⟩ := List.append_of_mem hmem
    refine ⟨before, after, rfl, fun x hx same => ?_⟩
    rw [List.map_append, List.map_cons, List.nodup_append, List.nodup_cons] at distinct
    exact distinct.2.1.1 (same ▸ List.mem_map_of_mem (f := (·.1)) hx)

theorem toList_ofPairs {pairs : List (String × String)} (ordered : pairs.Pairwise fun a b => a.1 < b.1) :
    (ofPairs pairs).toList = pairs := by
  have distinct : (pairs.map (·.1)).Nodup := by
    rw [List.Nodup, List.pairwise_map]
    exact ordered.imp ne_of_lt
  refine (toList_ofPairs_perm distinct).eq_of_pairwise (fun a b _ _ hab hba => ?_) (ascending _) ordered
  exact absurd (hab.trans hba) (lt_irrefl _)

/-- All keys of pairs are there, each once. -/
theorem size_ofPairs_eq (pairs : List (String × String)) :
    (ofPairs pairs).size = (pairs.map (·.1)).dedup.length := by
  have keys : (ofPairs pairs).keys.Perm (pairs.map (·.1)).dedup := by
    rw [List.perm_ext_iff_of_nodup Std.ExtTreeMap.nodup_keys (List.nodup_dedup _)]
    intro key
    rw [Std.ExtTreeMap.mem_keys, mem_ofPairs_iff, List.mem_dedup, List.mem_map]
  rw [← keys.length_eq, Std.ExtTreeMap.length_keys]

theorem size_ofPairs_eq_length_iff {pairs : List (String × String)} :
    (ofPairs pairs).size = pairs.length ↔ (pairs.map (·.1)).Nodup := by
  refine ⟨fun h => ?_, size_ofPairs⟩
  have full : (pairs.map (·.1)).dedup.length = (pairs.map (·.1)).length := by
    rw [← size_ofPairs_eq, h, List.length_map]
  rw [← (List.dedup_sublist _).eq_of_length full]
  exact List.nodup_dedup _

end Properties

namespace Backend.Transform
variable (t : Transform) (properties : Properties)

/-- The properties under their new keys, in the order of the old ones. -/
def moved : List (String × String) := properties.toList.map fun x => (t.newKey x.1, x.2)

theorem apply_eq : t.apply properties = .ofPairs (t.moved properties) := by
  cases t with
  | noop =>
    have same : moved noop properties = properties.toList := List.map_id _
    rw [same, Properties.ofPairs_toList]
    rfl
  | rename names => rfl
  | prepend text => rfl

theorem keys_moved : (t.moved properties).map (·.1) = properties.keys.map t.newKey := by
  rw [moved, List.map_map, ← Std.ExtTreeMap.map_fst_toList_eq_keys, List.map_map]
  rfl

theorem nodup_keys_moved_iff :
    ((t.moved properties).map (·.1)).Nodup ↔ Set.InjOn t.newKey {key | key ∈ properties} := by
  rw [keys_moved, List.nodup_map_iff_inj_on Std.ExtTreeMap.nodup_keys]
  simp only [Std.ExtTreeMap.mem_keys]
  exact ⟨fun h a ha b hb => h a ha b hb, fun h a ha b hb => h ha hb⟩

theorem mem_apply_iff (key : String) :
    key ∈ t.apply properties ↔ ∃ old ∈ properties, t.newKey old = key := by
  rw [apply_eq, Properties.mem_ofPairs_iff, ← List.mem_map, keys_moved, List.mem_map]
  simp only [Std.ExtTreeMap.mem_keys]

/-- The value of a new key is that of the greatest old key that goes there. -/
theorem getElem?_apply_iff (key value : String) : (t.apply properties)[key]? = some value ↔
    ∃ old, properties[old]? = some value ∧ t.newKey old = key ∧
      ∀ other ∈ properties, t.newKey other = key → other ≤ old := by
  rw [apply_eq, Properties.getElem?_ofPairs_iff]
  have ordered := Properties.ascending properties
  constructor
  · rintro ⟨before, after, split, others⟩
    obtain ⟨front, rest, hlist, -, hrest⟩ := List.map_eq_append_iff.1 split
    obtain ⟨⟨old, v⟩, back, rfl, hold, rfl⟩ := List.map_eq_cons_iff.1 hrest
    obtain ⟨hkey, rfl⟩ := Prod.mk.inj hold
    refine ⟨old, ?_, hkey, fun other hother same => ?_⟩
    · rw [← Std.ExtTreeMap.mem_toList_iff_getElem?_eq_some, hlist]
      simp
    · obtain ⟨value, hmem⟩ := Properties.mem_iff_exists.1 hother
      rw [hlist] at hmem ordered
      rcases List.mem_append.1 hmem with hfront | hmem
      · exact le_of_lt ((List.pairwise_append.1 ordered).2.2 _ hfront _ List.mem_cons_self)
      · rcases List.mem_cons.1 hmem with hhere | hback
        · exact le_of_eq (congrArg Prod.fst hhere)
        · exact absurd same (others (t.newKey other, value) (List.mem_map_of_mem hback))
  · rintro ⟨old, hold, hkey, greatest⟩
    obtain ⟨front, back, hlist⟩ :=
      List.append_of_mem (Std.ExtTreeMap.mem_toList_iff_getElem?_eq_some.2 hold)
    refine ⟨front.map fun x => (t.newKey x.1, x.2), back.map fun x => (t.newKey x.1, x.2), ?_, ?_⟩
    · rw [moved, hlist, List.map_append, List.map_cons, hkey]
    · rw [List.forall_mem_map]
      intro x hx same
      have hmem : x.1 ∈ properties := Properties.mem_iff_exists.2 ⟨x.2, by rw [hlist]; simp [hx]⟩
      rw [hlist] at ordered
      have later := (List.pairwise_cons.1 (List.pairwise_append.1 ordered).2.1).1 x hx
      exact absurd (greatest _ hmem same) (not_le_of_gt later)

/-- What goes to a key alone keeps its value there. -/
theorem getElem?_apply_of_alone {old key : String} (goes : t.newKey old = key)
    (alone : ∀ other ∈ properties, t.newKey other = key → other = old) :
    (t.apply properties)[key]? = properties[old]? := by
  refine Option.ext fun value => ?_
  rw [getElem?_apply_iff]
  constructor
  · rintro ⟨other, held, same, -⟩
    rwa [alone other (Std.ExtTreeMap.mem_iff_isSome_getElem?.2 (by rw [held]; rfl)) same] at held
  · intro held
    exact ⟨old, held, goes, fun other mem same => le_of_eq (alone other mem same)⟩

theorem size_apply_iff : (t.apply properties).size = properties.size ↔
    Set.InjOn t.newKey {key | key ∈ properties} := by
  have length : (t.moved properties).length = properties.size := by
    rw [moved, List.length_map, Std.ExtTreeMap.length_toList]
  rw [apply_eq, ← nodup_keys_moved_iff, ← Properties.size_ofPairs_eq_length_iff, length]

theorem toList_apply_perm_iff :
    (t.apply properties).toList.Perm (t.moved properties) ↔
      Set.InjOn t.newKey {key | key ∈ properties} := by
  rw [← nodup_keys_moved_iff, apply_eq]
  refine ⟨fun perm => ?_, Properties.toList_ofPairs_perm⟩
  exact ((perm.map (·.1)).nodup_iff).1 (Properties.keys_nodup _)

/-! ## Texts in front -/

theorem append_lt_append (text : String) {a b : String} (h : a < b) : text ++ a < text ++ b := by
  rw [String.lt_iff_toList_lt] at h ⊢
  rw [String.toList_append, String.toList_append]
  exact List.append_left_lt h

theorem toList_apply_prepend (text : String) :
    ((prepend text).apply properties).toList = properties.toList.map fun x => (text ++ x.1, x.2) := by
  rw [apply_eq]
  refine Properties.toList_ofPairs ?_
  rw [moved, List.pairwise_map]
  exact (Properties.ascending properties).imp (append_lt_append text)

theorem apply_prepend_injective (text : String) : Function.Injective (prepend text).apply := by
  intro a b same
  have lists := congrArg Std.ExtTreeMap.toList same
  rw [toList_apply_prepend, toList_apply_prepend] at lists
  refine Std.ExtTreeMap.toList_inj.1 (List.map_injective_iff.2 ?_ lists)
  intro x y h
  obtain ⟨hkey, hvalue⟩ := Prod.mk.inj h
  exact Prod.ext ((String.append_right_inj text).1 hkey) hvalue

theorem apply_prepend_prepend (first second : String) :
    (prepend first).apply ((prepend second).apply properties) = (prepend (first ++ second)).apply properties := by
  refine Std.ExtTreeMap.toList_inj.1 ?_
  simp only [toList_apply_prepend, List.map_map, Function.comp_def, String.append_assoc]

/-- What changes no key changes nothing. -/
theorem apply_of_newKey (h : ∀ key, t.newKey key = key) : t.apply properties = properties := by
  have same : t.moved properties = properties.toList := by
    rw [moved]
    simp only [h]
    exact List.map_id _
  rw [apply_eq, same, Properties.ofPairs_toList]

/-! ## Transforms -/

/-- What properties become under new names. -/
structure Renames (names properties result : Properties) : Prop where
  present (key : String) : key ∈ result ↔ ∃ old ∈ properties, names[old]?.getD old = key
  value (key value : String) : result[key]? = some value ↔
    ∃ old, properties[old]? = some value ∧ names[old]?.getD old = key ∧
      ∀ other ∈ properties, names[other]?.getD other = key → other ≤ old
  /-- Whether or not the new key has a name too, it is not renamed again. -/
  alone (old key : String) : names[old]?.getD old = key →
    (∀ other ∈ properties, names[other]?.getD other = key → other = old) →
    result[key]? = properties[old]?
  size : result.size = properties.size ↔
    Set.InjOn (fun key => names[key]?.getD key) {key | key ∈ properties}
  complete : result.toList.Perm (properties.toList.map fun x => (names[x.1]?.getD x.1, x.2)) ↔
    Set.InjOn (fun key => names[key]?.getD key) {key | key ∈ properties}

theorem renames (names properties : Properties) :
    Renames names properties ((rename names).apply properties) where
  present key := mem_apply_iff _ _ key
  value key value := getElem?_apply_iff _ _ key value
  alone _ _ goes alone := getElem?_apply_of_alone _ _ goes alone
  size := size_apply_iff _ _
  complete := toList_apply_perm_iff _ _

/-- Properties under new names are those that some key is renamed to, with the value of the greatest
such key, and none is lost just where no two keys get one name. A text in front of the keys keeps
apart, complete and in order whatever they are, texts in front join, and what changes no key
changes nothing. -/
theorem keys_transformed :
    (∀ names properties, Renames names properties ((rename names).apply properties)) ∧
    (∀ text, Function.Injective (prepend text).apply) ∧
    (∀ text properties, ((prepend text).apply properties).toList =
      properties.toList.map fun x => (text ++ x.1, x.2)) ∧
    (∀ first second properties, (prepend first).apply ((prepend second).apply properties) =
      (prepend (first ++ second)).apply properties) ∧
    ∀ properties, noop.apply properties = properties ∧ (prepend "").apply properties = properties ∧
      (rename ∅).apply properties = properties := by
  refine ⟨renames, apply_prepend_injective, fun text properties => toList_apply_prepend properties text,
    fun first second properties => apply_prepend_prepend properties first second, fun properties => ?_⟩
  refine ⟨rfl, apply_of_newKey _ _ fun key => ?_, apply_of_newKey _ _ fun key => ?_⟩
  · exact String.empty_append
  · rw [newKey, Std.ExtTreeMap.getElem?_empty, Option.getD_none]

example : ((rename (.ofPairs [("a", "b"), ("b", "a")])).apply
    (.ofPairs [("a", "1"), ("b", "2")])).toList = [("a", "2"), ("b", "1")] := by decide +kernel

example : ((rename (.ofPairs [("a", "b"), ("b", "c")])).apply
    (.ofPairs [("a", "1"), ("b", "2")])).toList = [("b", "1"), ("c", "2")] := by decide +kernel

def logins : Properties := .ofPairs [("login", "0"), ("name", "1"), ("user", "2")]

def loginNames : Properties := .ofPairs [("name", "login"), ("user", "login")]

/-- A name that is there already and two that are given meet: the greatest old key counts. -/
theorem logins_meet :
    logins["user"]? = some "2" ∧ loginNames["user"]?.getD "user" = "login" ∧
      (∀ other ∈ logins, loginNames[other]?.getD other = "login" → other ≤ "user") ∧
      ((rename loginNames).apply logins)["login"]? = some "2" ∧
      ((rename loginNames).apply logins).size ≠ logins.size := by
  have held : logins["user"]? = some "2" := by decide +kernel
  have named : loginNames["user"]?.getD "user" = "login" := by decide +kernel
  have greatest : ∀ other ∈ logins, loginNames[other]?.getD other = "login" → other ≤ "user" := by
    intro other mem _
    rw [logins, Properties.mem_ofPairs_iff] at mem
    simp only [List.mem_cons, List.not_mem_nil, or_false, exists_eq_or_imp, exists_eq_left] at mem
    rcases mem with rfl | rfl | rfl
    · decide
    · decide
    · decide
  obtain ⟨renamed, -⟩ := keys_transformed
  have result := renamed loginNames logins
  refine ⟨held, named, greatest, (result.value "login" "2").2 ⟨"user", held, named, greatest⟩, fun same => ?_⟩
  have apart := result.size.1 same
  have meet : "name" = "user" := apart (by decide +kernel) (by decide +kernel) (by decide +kernel)
  exact absurd meet (by decide)

end Backend.Transform
end SecretLayers
