import SecretLayers.Proofs.Properties.Lookup
import SecretLayers.Proofs.Properties.Refreshing
/-!
Views whose sources are replaced in place. The lookups of a view are separate walks over its
sources that all stop at the first source with the key. A replacement keeps the places of the
sources, so they go on agreeing whatever is replaced.
-/
namespace SecretLayers
set_option autoImplicit false

theorem Source.get?_eq_none_iff {s : Source} {key : String} : s.get? key = none ↔ key ∉ s.properties := by
  rw [get?, Std.ExtTreeMap.mem_iff_isSome_getElem?, Option.not_isSome_iff_eq_none]

namespace View

/-- Replaces the first source of a name, and says whether there was one. -/
def replacing (v : View) (source : Source) : Bool × View :=
  match v.replace? source with
  | some w => (true, w)
  | none => (false, v)

/-- The view after sources have been given to replace others, one after the other. -/
def afterReplacing (v : View) (sources : List Source) : View :=
  sources.foldl (fun w source => (w.replacing source).2) v

/-! ## What lookups tell -/

/-- What is told of a key: nothing if no source has it, else the value in the earliest source
that has it and the name of that source. -/
inductive Tells (v : View) (key : String) : Prop
  | nothing (absent : ∀ s ∈ v.sources, key ∉ s.properties) (value : v.get? key = none)
      (origin : v.origin? key = none) : Tells v key
  | earliest {before after : List Source} {s : Source} {text : String}
      (split : v.sources = before ++ s :: after) (absent : ∀ t ∈ before, key ∉ t.properties)
      (holds : s.properties[key]? = some text) (value : v.get? key = some text)
      (origin : v.origin? key = some s.name) : Tells v key

/-- The lookups of a view agree on every key. -/
structure Agrees (v : View) : Prop where
  merged : ∀ key, v.get? key = v.merged[key]?
  tells : ∀ key, v.Tells key
  ascending : v.keys.Pairwise (· < ·)
  complete : ∀ key, key ∈ v.keys ↔ key ∈ v.merged

theorem tells (v : View) (key : String) : v.Tells key := by
  by_cases absent : ∀ s ∈ v.sources, s.get? key = none
  · obtain ⟨value, origin, -⟩ := lookup_of_none absent
    exact .nothing (fun s hs => Source.get?_eq_none_iff.1 (absent s hs)) value origin
  · obtain ⟨text, hget⟩ : ∃ text, v.get? key = some text := by
      rw [← Option.ne_none_iff_exists']
      exact fun hnone => absent (List.findSome?_eq_none_iff.1 hnone)
    obtain ⟨before, s, after, split, holds, passed⟩ := List.findSome?_eq_some_iff.1 hget
    obtain ⟨value, origin, -⟩ := lookup_of_first split passed holds
    exact .earliest split (fun t ht => Source.get?_eq_none_iff.1 (passed t ht)) holds value origin

theorem agrees (v : View) : v.Agrees where
  merged key := (v.getElem?_merged key).symm
  tells := v.tells
  ascending := v.keys_ascending
  complete _ := Std.ExtTreeMap.mem_keys

/-! ## What a replacement does -/

/-- A source that does not have a key is passed over in its lookup. -/
theorem lookup_passed {before after : List Source} {s t : Source} {key : String}
    (hs : key ∉ s.properties) (ht : key ∉ t.properties) :
    (View.mk (before ++ s :: after)).get? key = (View.mk (before ++ t :: after)).get? key ∧
      (View.mk (before ++ s :: after)).origin? key =
        (View.mk (before ++ t :: after)).origin? key := by
  have hcontains {x : Source} (hx : key ∉ x.properties) : x.properties.contains key = false := by
    rw [← Std.ExtTreeMap.contains_iff_mem] at hx
    exact Bool.eq_false_iff.2 hx
  constructor
  · simp only [get?, List.findSome?_append, List.findSome?_cons, Source.get?_eq_none_iff.2 hs,
      Source.get?_eq_none_iff.2 ht]
  · simp only [origin?, List.find?_append, List.find?_cons, hcontains hs, hcontains ht]

theorem replaceIn?_eq_none_iff {source : Source} {sources : List Source} :
    replaceIn? source sources = none ↔ ∀ s ∈ sources, s.name ≠ source.name := by
  induction sources with
  | nil => simp [replaceIn?]
  | cons s rest ih =>
    by_cases here : s.name = source.name
    · simp [replaceIn?, here]
    · simp [replaceIn?, here, ih]

/-- What comes of a source that is to replace another: the first of its name gives it its
place, and what is told of keys that neither of the two has stays as it is. Without one of its
name all stays as it is. -/
inductive Replaces (v : View) (source : Source) : Bool × View → Prop
  | unknown (others : ∀ s ∈ v.sources, s.name ≠ source.name) : Replaces v source (false, v)
  | first {before after : List Source} {old : Source} (split : v.sources = before ++ old :: after)
      (others : ∀ s ∈ before, s.name ≠ source.name) (named : old.name = source.name)
      (value : ∀ key, key ∉ old.properties → key ∉ source.properties →
        (View.mk (before ++ source :: after)).get? key = v.get? key)
      (origin : ∀ key, key ∉ old.properties → key ∉ source.properties →
        (View.mk (before ++ source :: after)).origin? key = v.origin? key) :
      Replaces v source (true, ⟨before ++ source :: after⟩)

theorem replaces (v : View) (source : Source) : v.Replaces source (v.replacing source) := by
  unfold replacing
  split
  · rename_i w replaced
    obtain ⟨sources, hsources, rfl⟩ := Option.map_eq_some_iff.1 replaced
    obtain ⟨before, old, after, split, rfl, named, others⟩ := replaceIn?_eq_some_iff.1 hsources
    obtain rfl : v = ⟨before ++ old :: after⟩ := congrArg View.mk split
    exact .first rfl others named (fun key hold hnew => (lookup_passed hnew hold).1)
      fun key hold hnew => (lookup_passed hnew hold).2
  · rename_i hnone
    exact .unknown (replaceIn?_eq_none_iff.1 (Option.map_eq_none_iff.1 hnone))

section
variable {v : View} {source : Source} {result : Bool × View}

theorem Replaces.found_iff (h : v.Replaces source result) :
    result.1 = true ↔ ∃ s ∈ v.sources, s.name = source.name := by
  cases h with
  | unknown others =>
    constructor
    · intro found
      cases found
    · rintro ⟨s, hs, named⟩
      exact absurd named (others s hs)
  | @first before after old split others named value origin =>
    refine iff_of_true rfl ⟨old, ?_, named⟩
    simp [split]

theorem Replaces.names (h : v.Replaces source result) :
    result.2.sources.map (·.name) = v.sources.map (·.name) := by
  cases h with
  | unknown others => rfl
  | first split others named value origin => simp [split, named]

end

theorem afterReplacing_names (v : View) (sources : List Source) :
    (v.afterReplacing sources).sources.map (·.name) = v.sources.map (·.name) := by
  induction sources generalizing v with
  | nil => rfl
  | cons source rest ih =>
    calc ((v.replacing source).2.afterReplacing rest).sources.map (·.name)
        = (v.replacing source).2.sources.map (·.name) := ih _
      _ = v.sources.map (·.name) := (v.replaces source).names

/-- Whatever has been replaced in a view, its sources keep their names and their number, all
lookups tell of the earliest source with a key, and the next replacement succeeds just when there
is a source of its name, of which it changes the first and nothing else. -/
theorem lookups_agree_after_replacing (v : View) (sources : List Source) :
    (v.afterReplacing sources).sources.map (·.name) = v.sources.map (·.name) ∧
    (v.afterReplacing sources).size = v.size ∧
    (v.afterReplacing sources).Agrees ∧
    ∀ source,
      (((v.afterReplacing sources).replacing source).1 = true ↔
        ∃ s ∈ (v.afterReplacing sources).sources, s.name = source.name) ∧
      (v.afterReplacing sources).Replaces source ((v.afterReplacing sources).replacing source) := by
  have names := v.afterReplacing_names sources
  refine ⟨names, ?_, agrees _, fun source => ?_⟩
  · have hlength := congrArg List.length names
    rw [List.length_map, List.length_map] at hlength
    exact hlength
  · have replaces := (v.afterReplacing sources).replaces source
    exact ⟨replaces.found_iff, replaces⟩

end View
end SecretLayers
