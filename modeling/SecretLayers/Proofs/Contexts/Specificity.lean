import SecretLayers.Proofs.Contexts.Listing
import SecretLayers.Proofs.Properties.Lookup
/-!
When a name with a profile counts more than the name alone. Contexts are listed in reverse order
of their first declaration, so the variant stands before its name just when it is not declared
before it; and then a secret of the variant covers one of the name. A variant is declared before
its name only where it is a context of a name given earlier, never for the default context.
-/
namespace SecretLayers
set_option autoImplicit false

/-! ## Two elements of a list without repetitions -/

section
variable {α : Type} {a b : α} {front back l : List α}

theorem pair_sublist_back_iff (nodup : (front ++ a :: back).Nodup) :
    [a, b].Sublist (front ++ a :: back) ↔ b ∈ back := by
  constructor
  · intro h
    obtain ⟨l₁, l₂, hpair, h₁, h₂⟩ := List.sublist_append_iff.1 h
    have hfront : a ∉ front := by
      intro hmem
      exact (List.nodup_append.1 nodup).2.2 a hmem a List.mem_cons_self rfl
    cases l₁ with
    | nil =>
      obtain rfl : l₂ = [a, b] := hpair.symm
      exact List.singleton_sublist.1 (List.cons_sublist_cons.1 h₂)
    | cons c l₁ =>
      obtain ⟨rfl, -⟩ := List.cons.inj hpair
      exact absurd (h₁.mem List.mem_cons_self) hfront
  · intro h
    have hback : [a, b].Sublist (a :: back) := (List.singleton_sublist.2 h).cons_cons a
    exact hback.trans (List.sublist_append_right front _)

end

/-- What stands behind a source that has a key does not count for the key. -/
theorem View.lookup_covered {front back back' : List Source} {source : Source} {key : String}
    (h : (source.get? key).isSome) :
    (View.mk (front ++ source :: back)).get? key = (View.mk (front ++ source :: back')).get? key ∧
      (View.mk (front ++ source :: back)).origin? key =
        (View.mk (front ++ source :: back')).origin? key := by
  obtain ⟨value, hvalue⟩ := Option.isSome_iff_exists.1 h
  have hcontains : source.properties.contains key = true := by
    rw [Std.ExtTreeMap.contains_eq_isSome_getElem?]
    exact h
  constructor
  · simp only [View.get?, List.findSome?_append, List.findSome?_cons, hvalue]
  · simp only [View.origin?, List.find?_append, List.find?_cons, hcontains]

namespace Contexts

/-- A context is declared before the first declaration of another. -/
def Precedes (declared : List String) (s t : String) : Prop :=
  ∃ earlier later, declared = earlier ++ t :: later ∧ t ∉ earlier ∧ s ∈ earlier

theorem eraseDups_split {t : String} {earlier : List String} (h : t ∉ earlier) (later : List String) :
    ∃ back, (earlier ++ t :: later).eraseDups = earlier.eraseDups ++ t :: back := by
  have hkept : (t :: later).removeAll earlier = t :: later.removeAll earlier :=
    List.filter_cons_of_pos (by simp [h])
  rw [List.eraseDups_append, hkept, List.eraseDups_cons]
  exact ⟨_, rfl⟩

/-- In reverse, and without repetitions, a context stands before another just when it is not
declared before it. -/
theorem pair_sublist_reverse_iff {declared : List String} {s t : String} (hs : s ∈ declared)
    (ht : t ∈ declared) (hne : s ≠ t) :
    [s, t].Sublist declared.eraseDups.reverse ↔ ¬ Precedes declared s t := by
  have hreverse : [s, t].Sublist declared.eraseDups.reverse ↔ [t, s].Sublist declared.eraseDups :=
    List.sublist_reverse_iff
  rw [hreverse]
  have nodup := nodup_eraseDups declared
  constructor
  · rintro h ⟨earlier, later, rfl, first, hbefore⟩
    obtain ⟨back, hsplit⟩ := eraseDups_split first later
    rw [hsplit] at h nodup
    have hback := (pair_sublist_back_iff nodup).1 h
    have hfront : s ∈ earlier.eraseDups := List.mem_eraseDups.2 hbefore
    exact (List.nodup_append.1 nodup).2.2 s hfront s (List.mem_cons_of_mem t hback) rfl
  · intro h
    obtain ⟨earlier, later, rfl, first⟩ := List.eq_append_cons_of_mem ht
    obtain ⟨back, hsplit⟩ := eraseDups_split first later
    have hmem : s ∈ (earlier ++ t :: later).eraseDups := List.mem_eraseDups.2 hs
    rw [hsplit] at hmem nodup ⊢
    rw [pair_sublist_back_iff nodup]
    rcases List.mem_append.1 hmem with hfront | hrest
    · exact absurd ⟨earlier, later, rfl, first, List.mem_eraseDups.1 hfront⟩ h
    · exact (List.mem_cons.1 hrest).resolve_left hne

/-! ## Variants and their names -/

section
variable {lists profiles : List String} {default separator name profile : String}

theorem variant_sublist_iff (separator : String) (hname : name ∈ names lists default)
    (hprofile : profile ∈ trimmed profiles) :
    [name ++ separator ++ profile, name].Sublist (ofNames lists profiles default separator) ↔
      ¬ Precedes (expanded lists profiles default separator) (name ++ separator ++ profile) name := by
  have hvariant : name ++ separator ++ profile ∈ expanded lists profiles default separator := by
    rw [mem_expanded]
    exact ⟨name, hname, .inr ⟨profile, hprofile, rfl⟩⟩
  have hbase : name ∈ expanded lists profiles default separator := by
    rw [mem_expanded]
    exact ⟨name, hname, .inl rfl⟩
  have hne := variant_ne_name name separator (mem_trimmed.1 hprofile).1
  rw [ofNames_eq_reverse]
  exact pair_sublist_reverse_iff hvariant hbase hne

theorem not_precedes_default (h : Text.trim default ≠ "") (s : String) :
    ¬ Precedes (expanded lists profiles default separator) s (Text.trim default) := by
  rintro ⟨earlier, later, split, first, hs⟩
  obtain ⟨rest, hexpanded⟩ := expanded_of_default lists profiles separator h
  rw [hexpanded] at split
  cases earlier with
  | nil => cases hs
  | cons t earlier =>
    obtain ⟨rfl, -⟩ := List.cons.inj split
    exact first List.mem_cons_self

/-- What is declared before a name is a context of the names given before it. -/
theorem exists_name_of_precedes {before after : List String} {s : String}
    (hnames : names lists default = before ++ name :: after)
    (h : Precedes (expanded lists profiles default separator) s name) :
    ∃ other ∈ before, s = other ∨ ∃ p ∈ trimmed profiles, s = other ++ separator ++ p := by
  obtain ⟨earlier, later, split, first, hs⟩ := h
  rw [expanded, hnames, List.flatMap_append, List.flatMap_cons, List.cons_append] at split
  have hbefore : s ∈ before.flatMap fun other =>
      other :: (trimmed profiles).map fun p => other ++ separator ++ p := by
    rcases List.append_eq_append_iff.1 split with ⟨rest, rfl, hrest⟩ | ⟨rest, hfront, -⟩
    · cases rest with
      | nil => simpa using hs
      | cons t rest =>
        -- A longer front would hold the name itself.
        obtain ⟨rfl, -⟩ := List.cons.inj hrest
        exact absurd (List.mem_append_right _ List.mem_cons_self) first
    · rw [hfront]
      exact List.mem_append_left rest hs
  obtain ⟨other, hother, hmem⟩ := List.mem_flatMap.1 hbefore
  refine ⟨other, hother, ?_⟩
  rcases List.mem_cons.1 hmem with rfl | hvariant
  · exact .inl rfl
  · obtain ⟨p, hp, rfl⟩ := List.mem_map.1 hvariant
    exact .inr ⟨p, hp, rfl⟩

end

/-- The source of what is read for a context under a mount. -/
def sourceOf (mount : String) (read : String → Properties) (context : String) : Source where
  name := mount ++ "/" ++ context
  properties := read context

/-- The view of what is read for contexts, before other sources. -/
def viewOf (mount : String) (contexts : List String) (read : String → Properties)
    (others : List Source) : View where
  sources := contexts.map (sourceOf mount read) ++ others

/-- In every view of the contexts, whatever is read for `t` leaves the value and the origin of
each key that is read for `s`. -/
def Overrides (contexts : List String) (s t : String) : Prop :=
  ∀ (mount key : String) (others : List Source) (read read' : String → Properties),
    ((read s)[key]?).isSome → (∀ context, context ≠ t → read' context = read context) →
    (viewOf mount contexts read' others).get? key = (viewOf mount contexts read others).get? key ∧
      (viewOf mount contexts read' others).origin? key = (viewOf mount contexts read others).origin? key

theorem overrides_of_sublist {contexts : List String} {s t : String} (nodup : contexts.Nodup)
    (h : [s, t].Sublist contexts) : Overrides contexts s t := by
  intro mount key others read read' hkey agree
  obtain ⟨front, back, rfl, -⟩ := List.eq_append_cons_of_mem (h.mem List.mem_cons_self)
  have hback : t ∈ back := (pair_sublist_back_iff nodup).1 h
  have hdisjoint := (List.nodup_append.1 nodup).2.2
  have same : ∀ context, context ≠ t → sourceOf mount read' context = sourceOf mount read context := by
    intro context hne
    rw [sourceOf, sourceOf, agree context hne]
  have hs : s ≠ t := by
    rintro rfl
    exact (List.nodup_cons.1 (List.nodup_append.1 nodup).2.1).1 hback
  have hfront : front.map (sourceOf mount read') = front.map (sourceOf mount read) := by
    refine List.map_congr_left fun context hcontext => same context ?_
    exact hdisjoint context hcontext t (List.mem_cons_of_mem s hback)
  simp only [viewOf, List.map_append, List.map_cons, List.append_assoc, List.cons_append, hfront, same s hs]
  exact View.lookup_covered hkey

/-- A name with a profile stands before the name alone unless it is declared before it, as it
never is for the default context, nor for a name before which no name is given that is the
variant or has it as a variant. Where it stands before the name it overrides it. -/
theorem variants_outrank (lists profiles : List String) (default separator : String) :
    ∀ name ∈ names lists default, ∀ profile ∈ trimmed profiles,
      let contexts := ofNames lists profiles default separator
      let variant := name ++ separator ++ profile
      ([variant, name].Sublist contexts ↔
        ¬ Precedes (expanded lists profiles default separator) variant name) ∧
      (name = Text.trim default → [variant, name].Sublist contexts) ∧
      (∀ before after, names lists default = before ++ name :: after →
        (∀ other ∈ before, variant ≠ other ∧ ∀ p ∈ trimmed profiles, variant ≠ other ++ separator ++ p) →
        [variant, name].Sublist contexts) ∧
      ([variant, name].Sublist contexts → Overrides contexts variant name) := by
  intro name hname profile hprofile
  have hiff := variant_sublist_iff separator hname hprofile
  refine ⟨hiff, ?_, ?_, ?_⟩
  · rintro rfl
    exact hiff.2 (not_precedes_default (mem_trimmed.1 hname).1 _)
  · intro before after hnames others
    rw [hiff]
    intro hprecedes
    obtain ⟨other, hother, hvariant⟩ := exists_name_of_precedes hnames hprecedes
    obtain ⟨hne, hnone⟩ := others other hother
    rcases hvariant with hsame | ⟨p, hp, hsame⟩
    · exact hne hsame
    · exact hnone p hp hsame
  · exact overrides_of_sublist (nodup_ofNames lists profiles default separator)

/-- A name that is also the variant of a name before it, with a profile of its own. -/
theorem variant_of_variant_outranks :
    let contexts := ofNames ["application,app", " app/qa"] [" dev ", "", "qa"] "application" "/"
    "app/qa" ∈ names ["application,app", " app/qa"] "application" ∧ "dev" ∈ trimmed [" dev ", "", "qa"] ∧
      ["app/qa" ++ "/" ++ "dev", "app/qa"].Sublist contexts ∧
      Overrides contexts ("app/qa" ++ "/" ++ "dev") "app/qa" := by
  have hnames : names ["application,app", " app/qa"] "application" =
      ["application", "application", "app"] ++ "app/qa" :: [] := by
    rw [names_eq]
    decide
  have hname : "app/qa" ∈ names ["application,app", " app/qa"] "application" := by
    rw [hnames]
    decide
  have hprofile : "dev" ∈ trimmed [" dev ", "", "qa"] := by decide
  obtain ⟨-, -, behind, overrides⟩ := variants_outrank ["application,app", " app/qa"]
    [" dev ", "", "qa"] "application" "/" "app/qa" hname "dev" hprofile
  have hsublist := behind _ _ hnames (by decide)
  exact ⟨hname, hprofile, hsublist, overrides hsublist⟩

/-- A default context that is the variant of an application name stays the last. -/
theorem base_outranks_default_variant :
    let contexts := ofNames ["app"] ["dev"] "app/dev" "/"
    "/" ≠ "" ∧ "app" ∈ names ["app"] "app/dev" ∧ "dev" ∈ trimmed ["dev"] ∧
      ¬ ["app" ++ "/" ++ "dev", "app"].Sublist contexts ∧
      ¬ Overrides contexts ("app" ++ "/" ++ "dev") "app" := by
  have hname : "app" ∈ names ["app"] "app/dev" := by
    rw [names_eq]
    decide
  refine ⟨by decide, hname, by decide, by decide, fun h => ?_⟩
  let read (value context : String) : Properties :=
    .ofPairs [("port", if context = "app" then value else "80")]
  have hsame := (h "secret" "port" [] (read "1") (read "2") (by decide +kernel) ?_).1
  · exact absurd hsame (by decide +kernel)
  · intro context hne
    simp only [read, if_neg hne]

end Contexts
end SecretLayers
