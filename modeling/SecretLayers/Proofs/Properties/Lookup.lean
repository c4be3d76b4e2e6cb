import Mathlib.Data.List.Induction
import SecretLayers.Properties.View
/-!
What a view tells of a key. Value, origin and merged properties are three folds over the
sources; all of them speak of the first source that has the key.
-/
namespace SecretLayers
set_option autoImplicit false

namespace Properties

/-! ## Properties that are only added -/

/-- Adds pairs whose keys are new, so that the first one of a key counts. -/
def fill (properties : Properties) (pairs : List (String × String)) : Properties :=
  pairs.foldl (fun all (key, value) => all.insertIfNew key value) properties

theorem getElem?_insertIfNew_eq (p : Properties) (key name value : String) :
    (p.insertIfNew name value)[key]? = p[key]?.or (if name = key then some value else none) := by
  simp only [Std.ExtTreeMap.getElem?_insertIfNew, Std.compare_eq_iff_eq]
  by_cases same : name = key
  · subst same
    by_cases has : name ∈ p
    · simp [has]
    · simp [has]
  · simp [same]

theorem getElem?_fill (p : Properties) (pairs : List (String × String)) (key : String) :
    (p.fill pairs)[key]? = p[key]?.or (pairs.findSome? fun x => if x.1 = key then some x.2 else none) := by
  induction pairs generalizing p with
  | nil => simp [fill]
  | cons x pairs ih =>
    have step : fill p (x :: pairs) = fill (p.insertIfNew x.1 x.2) pairs := rfl
    rw [step, ih, getElem?_insertIfNew_eq, Option.or_assoc]
    congr 1
    by_cases same : x.1 = key
    · simp [same]
    · simp [same]

theorem findSome?_toList (p : Properties) (key : String) :
    (p.toList.findSome? fun x => if x.1 = key then some x.2 else none) = p[key]? := by
  cases h : p.toList.findSome? fun x => if x.1 = key then some x.2 else none with
  | some value =>
    obtain ⟨⟨name, v⟩, hmem, hx⟩ := List.exists_of_findSome?_eq_some h
    have same : name = key := by
      by_cases same : name = key
      · exact same
      · simp [same] at hx
    obtain rfl : v = value := by simpa [same] using hx
    rw [← same]
    exact (Std.ExtTreeMap.mem_toList_iff_getElem?_eq_some.1 hmem).symm
  | none =>
    cases hp : p[key]? with
    | none => rfl
    | some v =>
      have hmem := Std.ExtTreeMap.mem_toList_iff_getElem?_eq_some.2 hp
      have := List.findSome?_eq_none_iff.1 h _ hmem
      simp at this

/-! ## Properties that are replaced -/

theorem ofPairs_concat (pairs : List (String × String)) (x : String × String) :
    ofPairs (pairs ++ [x]) = (ofPairs pairs).insert x.1 x.2 :=
  extend_append ∅ pairs [x]

/-- The last pair of a key counts. -/
theorem getElem?_ofPairs_iff (pairs : List (String × String)) (key value : String) :
    (ofPairs pairs)[key]? = some value ↔
      ∃ before after, pairs = before ++ (key, value) :: after ∧ ∀ x ∈ after, x.1 ≠ key := by
  induction pairs using List.reverseRecOn with
  | nil => simp [ofPairs_nil]
  | append_singleton pairs x ih =>
    rw [ofPairs_concat, Std.ExtTreeMap.getElem?_insert]
    simp only [Std.compare_eq_iff_eq]
    by_cases same : x.1 = key
    · rw [if_pos same]
      constructor
      · intro h
        obtain rfl := Option.some.inj h
        exact ⟨pairs, [], by rw [← same], by simp⟩
      · rintro ⟨before, after, h, others⟩
        rcases List.eq_nil_or_concat after with rfl | ⟨front, y, rfl⟩
        · rw [List.singleton_inj.1 (List.append_inj' h rfl).2]
        · rw [List.concat_eq_append, ← List.cons_append, ← List.append_assoc] at h
          have last : x = y := List.singleton_inj.1 (List.append_inj' h rfl).2
          exact absurd (last ▸ same) (others y (by simp))
    · rw [if_neg same, ih]
      constructor
      · rintro ⟨before, after, rfl, others⟩
        refine ⟨before, after ++ [x], by simp, fun y hy => ?_⟩
        rcases List.mem_append.1 hy with hy | hy
        · exact others y hy
        · rw [List.mem_singleton.1 hy]
          exact same
      · rintro ⟨before, after, h, others⟩
        rcases List.eq_nil_or_concat after with rfl | ⟨front, y, rfl⟩
        · have last : x = (key, value) := List.singleton_inj.1 (List.append_inj' h rfl).2
          exact absurd (congrArg Prod.fst last) same
        · rw [List.concat_eq_append, ← List.cons_append, ← List.append_assoc] at h
          exact ⟨before, front, (List.append_inj' h rfl).1, fun z hz => others z (by simp [hz])⟩

theorem mem_ofPairs_iff (pairs : List (String × String)) (key : String) :
    key ∈ ofPairs pairs ↔ ∃ x ∈ pairs, x.1 = key := by
  induction pairs using List.reverseRecOn with
  | nil => simp [ofPairs_nil]
  | append_singleton pairs x ih =>
    rw [ofPairs_concat, Std.ExtTreeMap.mem_insert, ih, Std.compare_eq_iff_eq]
    constructor
    · rintro (same | ⟨y, hy, same⟩)
      · exact ⟨x, by simp, same⟩
      · exact ⟨y, by simp [hy], same⟩
    · rintro ⟨y, hy, same⟩
      rcases List.mem_append.1 hy with hy | hy
      · exact .inr ⟨y, hy, same⟩
      · rw [List.mem_singleton.1 hy] at same
        exact .inl same

/-- Pairs that are added count before what was there. -/
theorem getElem?_extend (p : Properties) (pairs : List (String × String)) (key : String) :
    (p.extend pairs)[key]? = (ofPairs pairs)[key]?.or p[key]? := by
  induction pairs using List.reverseRecOn with
  | nil => simp [extend, ofPairs_nil]
  | append_singleton pairs x ih =>
    have hlast : p.extend (pairs ++ [x]) = (p.extend pairs).insert x.1 x.2 := extend_append p pairs [x]
    rw [hlast, ofPairs_concat, Std.ExtTreeMap.getElem?_insert, Std.ExtTreeMap.getElem?_insert, ih]
    split
    · rfl
    · rfl

theorem ofPairs_toList (p : Properties) : ofPairs p.toList = p := by
  refine Std.ExtTreeMap.ext_getElem? fun key => Option.ext fun value => ?_
  rw [getElem?_ofPairs_iff, ← Std.ExtTreeMap.mem_toList_iff_getElem?_eq_some]
  constructor
  · rintro ⟨before, after, hlist, -⟩
    simp [hlist]
  · intro hmem
    obtain ⟨before, after, hlist⟩ := List.append_of_mem hmem
    refine ⟨before, after, hlist, fun x hx => ?_⟩
    have distinct : p.toList.Pairwise fun a b => ¬ compare a.1 b.1 = .eq :=
      Std.ExtTreeMap.distinct_keys_toList
    rw [hlist, List.pairwise_append, List.pairwise_cons] at distinct
    have hne := distinct.2.1.1 x hx
    rw [Std.compare_eq_iff_eq] at hne
    exact Ne.symm hne

theorem getElem?_ofPairs_map (keys : List String) (valueOf : String → String) (key : String) :
    (ofPairs (keys.map fun k => (k, valueOf k)))[key]? =
      if key ∈ keys then some (valueOf key) else none := by
  induction keys using List.reverseRecOn with
  | nil => simp [ofPairs_nil]
  | append_singleton keys k ih =>
    rw [List.map_append, List.map_cons, List.map_nil, ofPairs_concat, Std.ExtTreeMap.getElem?_insert,
      ih]
    simp only [Std.compare_eq_iff_eq]
    by_cases same : k = key
    · simp [same]
    · simp [same, Ne.symm same]

/-- Nothing is lost where no two pairs have the same key. -/
theorem size_ofPairs {pairs : List (String × String)} (distinct : (pairs.map (·.1)).Nodup) :
    (ofPairs pairs).size = pairs.length := by
  induction pairs using List.reverseRecOn with
  | nil => rfl
  | append_singleton pairs x ih =>
    rw [List.map_append, List.nodup_append] at distinct
    have fresh : (ofPairs pairs).contains x.1 = false := by
      rw [Bool.eq_false_iff]
      intro h
      obtain ⟨y, hy, same⟩ := (mem_ofPairs_iff pairs x.1).1 h
      exact distinct.2.2 y.1 (List.mem_map_of_mem hy) x.1 (by simp) same
    rw [ofPairs_concat, Std.ExtTreeMap.size_insert, fresh, ih distinct.1]
    simp

end Properties

namespace View

/-! ## Adding sources behind others -/

theorem merged_eq_foldl (v : View) :
    v.merged = v.sources.foldl (fun all s => all.fill s.properties.toList) ∅ := rfl

theorem getElem?_foldl_fill (sources : List Source) (all : Properties) (key : String) :
    (sources.foldl (fun all s => all.fill s.properties.toList) all)[key]? =
      all[key]?.or (sources.findSome? fun s => s.get? key) := by
  induction sources generalizing all with
  | nil => simp
  | cons s sources ih =>
    simp only [List.foldl_cons, ih, Properties.getElem?_fill, Properties.findSome?_toList,
      Option.or_assoc, List.findSome?_cons, Source.get?]
    congr 1
    cases s.properties[key]? with
    | none => rfl
    | some value => rfl

/-- The merged properties are the values by key. -/
theorem getElem?_merged (v : View) (key : String) : v.merged[key]? = v.get? key := by
  rw [merged_eq_foldl, getElem?_foldl_fill]
  simp [get?]

/-! ## The first source that has a key -/

theorem lookup_of_first {v : View} {before after : List Source} {s : Source} {key value : String}
    (hv : v.sources = before ++ s :: after) (hbefore : ∀ t ∈ before, t.get? key = none)
    (hs : s.get? key = some value) :
    v.get? key = some value ∧ v.origin? key = some s.name ∧ v.merged[key]? = some value := by
  have hget : v.get? key = some value := by
    rw [get?, hv, List.findSome?_append, List.findSome?_eq_none_iff.2 hbefore]
    simp [hs]
  have hcontains (t : Source) : t.properties.contains key = (t.get? key).isSome :=
    Std.ExtTreeMap.contains_eq_isSome_getElem?
  have hnone : (before.find? fun t => t.properties.contains key) = none := by
    rw [List.find?_eq_none]
    intro t ht
    simp [hcontains, hbefore t ht]
  refine ⟨hget, ?_, ?_⟩
  · rw [origin?, hv, List.find?_append, hnone]
    simp [hcontains, hs]
  · rw [getElem?_merged, hget]

theorem lookup_of_none {v : View} {key : String} (h : ∀ s ∈ v.sources, s.get? key = none) :
    v.get? key = none ∧ v.origin? key = none ∧ v.merged[key]? = none := by
  have hget : v.get? key = none := List.findSome?_eq_none_iff.2 h
  have hcontains (t : Source) : t.properties.contains key = (t.get? key).isSome :=
    Std.ExtTreeMap.contains_eq_isSome_getElem?
  refine ⟨hget, ?_, ?_⟩
  · rw [origin?, Option.map_eq_none_iff, List.find?_eq_none]
    intro s hs
    simp [hcontains, h s hs]
  · rw [getElem?_merged, hget]

/-! ## Keys -/

theorem mem_merged {v : View} {key : String} : key ∈ v.merged ↔ (v.origin? key).isSome := by
  have hcontains (s : Source) : s.properties.contains key = (s.get? key).isSome :=
    Std.ExtTreeMap.contains_eq_isSome_getElem?
  rw [Std.ExtTreeMap.mem_iff_isSome_getElem?, getElem?_merged, get?, List.findSome?_isSome_iff, origin?,
    Option.isSome_map, List.find?_isSome]
  simp only [hcontains]

theorem keys_ascending (v : View) : v.keys.Pairwise (· < ·) := by
  have hordered : v.keys.Pairwise fun a b => compare a b = .lt := Std.ExtTreeMap.ordered_keys
  exact hordered.imp compareOfLessAndEq_eq_lt.1

end View
end SecretLayers
