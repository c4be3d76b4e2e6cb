import SecretLayers.Contexts
import SecretLayers.Proofs.Text.Blank
/-!
The list of contexts in full. Every name, the default context first, is declared with a variant
for each profile; of what is declared the first occurrences count, and they stand in reverse
order. So nothing is listed twice, nothing is lost or added, and the default context ends the
list, right behind its own variants.
-/
namespace SecretLayers
set_option autoImplicit false

/-! ## Pieces of texts -/

namespace Text

theorem splitChars_eq_splitOnP (p : Char → Bool) (cs : List Char) : splitChars p cs = cs.splitOnP p := by
  induction cs with
  | nil => rfl
  | cons c cs ih =>
    rw [splitChars, List.splitOnP_cons_eq_if_modifyHead, ih]
    cases hsplit : cs.splitOnP p with
    | nil => exact absurd hsplit (List.splitOnP_ne_nil p cs)
    | cons piece rest => rfl

theorem splitAt_eq_split (separator : Char) (s : String) :
    splitAt separator s = (s.split separator).toList.map String.Slice.copy := by
  rw [splitAt, splitChars_eq_splitOnP, String.toList_split_char]
  rfl

theorem splitAt_append (separator : Char) (s t : String) :
    splitAt separator (s ++ String.singleton separator ++ t) =
      splitAt separator s ++ splitAt separator t := by
  have hchars : (s ++ String.singleton separator ++ t).toList = s.toList ++ separator :: t.toList := by
    simp
  simp only [splitAt, splitChars_eq_splitOnP, hchars]
  rw [List.splitOnP_append_cons _ _ (by simp), List.map_append]

/-- To join texts by a separator and to split the result gives the pieces of all of them. -/
theorem splitAt_intercalate (separator : Char) (s : String) (texts : List String) :
    splitAt separator ((String.singleton separator).intercalate (s :: texts)) =
      (s :: texts).flatMap (splitAt separator) := by
  induction texts generalizing s with
  | nil => simp
  | cons t texts ih =>
    have hrest := ih t
    rw [String.intercalate_cons_cons, splitAt_append, hrest]
    rfl

end Text

/-! ## Names -/

namespace Contexts

/-- What is left of texts when they are trimmed and the empty ones are left out. -/
def trimmed (texts : List String) : List String :=
  (texts.map Text.trim).filter (· ≠ "")

theorem nonBlank_eq_trimmed (texts : List String) : nonBlank texts = trimmed texts := by
  unfold nonBlank trimmed
  induction texts with
  | nil => rfl
  | cons s texts ih =>
    rw [List.map_cons]
    cases blank : Text.isBlankText s with
    | true =>
      have hempty := (Text.trim_eq_empty_iff s).2 blank
      have hnone : Text.trimmed? s = none := by simp [Text.trimmed?, blank]
      rw [List.filterMap_cons_none hnone, List.filter_cons_of_neg (by simp [hempty]), ih]
    | false =>
      have hshown : Text.trim s ≠ "" := by
        intro h
        rw [(Text.trim_eq_empty_iff s).1 h] at blank
        cases blank
      have hsome : Text.trimmed? s = some (Text.trim s) := by simp [Text.trimmed?, blank]
      rw [List.filterMap_cons_some hsome, List.filter_cons_of_pos (by simp [hshown]), ih]

theorem mem_trimmed {texts : List String} {s : String} :
    s ∈ trimmed texts ↔ s ≠ "" ∧ ∃ text ∈ texts, Text.trim text = s := by
  simp only [trimmed, List.mem_filter, List.mem_map, decide_eq_true_eq]
  exact And.comm

/-- The names that contexts are made of: the default context, and those between the commas. -/
def names (lists : List String) (default : String) : List String :=
  trimmed (default :: lists.flatMap fun s => (s.split ',').toList.map String.Slice.copy)

/-- Each name, and behind it the name with each profile. -/
def expanded (lists profiles : List String) (default separator : String) : List String :=
  (names lists default).flatMap fun name =>
    name :: (trimmed profiles).map fun profile => name ++ separator ++ profile

theorem names_eq (lists : List String) (default : String) :
    names lists default = nonBlank [default] ++ applicationNames lists := by
  have hpieces : (fun s : String => (s.split ',').toList.map String.Slice.copy) = Text.splitAt ',' := by
    funext s
    exact (Text.splitAt_eq_split ',' s).symm
  rw [names, ← nonBlank_eq_trimmed, hpieces, applicationNames, nonBlank, nonBlank, nonBlank,
    ← List.filterMap_append]
  rfl

theorem declared_eq (lists profiles : List String) (default separator : String) :
    declared lists profiles default separator = expanded lists profiles default separator := by
  rw [declared, ← names_eq, nonBlank_eq_trimmed]
  rfl

/-! ## Repeated contexts -/

theorem remember_eraseDups (seen : List String) (s : String) :
    remember seen.eraseDups.reverse s = (seen ++ [s]).eraseDups.reverse := by
  rw [List.eraseDups_append, List.reverse_append, remember]
  by_cases h : s ∈ seen
  · have hall : [s].removeAll seen = [] := by simp [List.removeAll, h]
    rw [hall, if_pos (by simp [h])]
    rfl
  · have hnone : [s].removeAll seen = [s] := by simp [List.removeAll, h]
    rw [hnone, if_neg (by simp [h])]
    rfl

theorem foldl_remember_eraseDups (seen declared : List String) :
    declared.foldl remember seen.eraseDups.reverse = (seen ++ declared).eraseDups.reverse := by
  induction declared generalizing seen with
  | nil => rw [List.foldl_nil, List.append_nil]
  | cons s declared ih =>
    rw [List.foldl_cons, remember_eraseDups, ih, List.append_assoc, List.singleton_append]

theorem foldl_remember (declared : List String) :
    declared.foldl remember [] = declared.eraseDups.reverse := by
  have hfold := foldl_remember_eraseDups [] declared
  rw [List.eraseDups_nil, List.reverse_nil, List.nil_append] at hfold
  exact hfold

theorem nodup_foldl_remember (declared : List String) {seen : List String} (h : seen.Nodup) :
    (declared.foldl remember seen).Nodup := by
  induction declared generalizing seen with
  | nil => exact h
  | cons s declared ih => exact ih (nodup_remember h s)

theorem nodup_eraseDups (declared : List String) : declared.eraseDups.Nodup := by
  have h := nodup_foldl_remember declared List.nodup_nil
  rw [foldl_remember] at h
  exact (List.reverse_perm _).nodup_iff.1 h

/-! ## The whole list -/

theorem variant_ne_name (name separator : String) {profile : String} (h : profile ≠ "") :
    name ++ separator ++ profile ≠ name := by
  intro same
  have hchars : name.toList ++ (separator.toList ++ profile.toList) = name.toList := by
    rw [← List.append_assoc, ← String.toList_append, ← String.toList_append, same]
  have hnil := List.append_right_eq_self.1 hchars
  have hprofile := (List.append_eq_nil_iff.1 hnil).2
  exact h (String.toList_eq_nil_iff.1 hprofile)

section
variable (lists profiles : List String) (default separator : String)

theorem ofNames_eq_reverse :
    ofNames lists profiles default separator =
      (expanded lists profiles default separator).eraseDups.reverse := by
  rw [ofNames, declared_eq, foldl_remember]

theorem nodup_ofNames : (ofNames lists profiles default separator).Nodup :=
  nodup_foldl_remember _ List.nodup_nil

theorem mem_expanded (s : String) : s ∈ expanded lists profiles default separator ↔
    ∃ name ∈ names lists default, s = name ∨ ∃ profile ∈ trimmed profiles, s = name ++ separator ++ profile := by
  simp only [expanded, List.mem_flatMap, List.mem_cons, List.mem_map, eq_comm]

theorem names_of_default {default : String} (h : Text.trim default ≠ "") :
    ∃ rest, names lists default = Text.trim default :: rest := by
  rw [names, trimmed, List.map_cons, List.filter_cons_of_pos (by simp [h])]
  exact ⟨_, rfl⟩

theorem expanded_of_default {default : String} (h : Text.trim default ≠ "") :
    ∃ rest, expanded lists profiles default separator =
      (Text.trim default :: (trimmed profiles).map fun profile => Text.trim default ++ separator ++ profile) ++
        rest := by
  obtain ⟨rest, hnames⟩ := names_of_default lists h
  rw [expanded, hnames, List.flatMap_cons]
  exact ⟨_, rfl⟩

theorem eraseDups_variants (name : String) :
    (name :: (trimmed profiles).map fun profile => name ++ separator ++ profile).eraseDups =
      name :: ((trimmed profiles).map fun profile => name ++ separator ++ profile).eraseDups := by
  rw [List.eraseDups_cons]
  congr 2
  rw [List.filter_eq_self]
  intro variant hvariant
  obtain ⟨profile, hprofile, rfl⟩ := List.mem_map.1 hvariant
  have hne := variant_ne_name name separator (mem_trimmed.1 hprofile).1
  simp [hne]

theorem ofNames_of_default {default : String} (h : Text.trim default ≠ "") :
    ∃ others, ofNames lists profiles default separator =
      others ++ ((trimmed profiles).map fun profile =>
        Text.trim default ++ separator ++ profile).eraseDups.reverse ++ [Text.trim default] := by
  obtain ⟨rest, hexpanded⟩ := expanded_of_default lists profiles separator h
  rw [ofNames_eq_reverse, hexpanded, List.eraseDups_append, eraseDups_variants, List.reverse_append,
    List.reverse_cons, ← List.append_assoc]
  exact ⟨_, rfl⟩

theorem applicationNames_intercalate : applicationNames [",".intercalate lists] = applicationNames lists := by
  cases lists with
  | nil => decide
  | cons s texts =>
    have hpieces := Text.splitAt_intercalate ',' s texts
    simp only [applicationNames, List.flatMap_singleton]
    exact congrArg nonBlank hpieces

/-- The contexts are the names with their variants in order of declaration, of each of which the
first occurrence counts, in reverse. So none is listed twice, and those listed are the names and
their variants; a default context is the last, behind its own variants; and names may be given
in one text as well as in several. -/
theorem contexts_listed :
    ofNames lists profiles default separator =
      (expanded lists profiles default separator).eraseDups.reverse ∧
    (ofNames lists profiles default separator).Nodup ∧
    (∀ s, s ∈ ofNames lists profiles default separator ↔ ∃ name ∈ names lists default,
      s = name ∨ ∃ profile ∈ trimmed profiles, s = name ++ separator ++ profile) ∧
    (Text.trim default ≠ "" → ∃ others, ofNames lists profiles default separator =
      others ++ ((trimmed profiles).map fun profile =>
        Text.trim default ++ separator ++ profile).eraseDups.reverse ++ [Text.trim default]) ∧
    ofNames [",".intercalate lists] profiles default separator =
      ofNames lists profiles default separator := by
  have hreverse := ofNames_eq_reverse lists profiles default separator
  refine ⟨hreverse, nodup_ofNames lists profiles default separator, ?_, ?_, ?_⟩
  · intro s
    rw [hreverse, List.mem_reverse, List.mem_eraseDups]
    exact mem_expanded lists profiles default separator s
  · intro h
    exact ofNames_of_default lists profiles separator h
  · rw [ofNames, declared, applicationNames_intercalate]
    rfl

end

end Contexts
end SecretLayers
