import SecretLayers.Text.Blank
/-!
The contexts an application reads its generic secrets from.

A context is an application name, or the default context, alone or followed by a profile.
The list is in order of precedence: the names given last come first, each with its
profiles before itself, and the default context is last.
-/
namespace SecretLayers.Contexts

/-- Trimmed texts, without those of which nothing is left. -/
def nonBlank (texts : List String) : List String :=
  texts.filterMap Text.trimmed?

/-- The application names in lists separated by commas. -/
def applicationNames (lists : List String) : List String :=
  nonBlank (lists.flatMap (Text.splitAt ','))

/-- A name, then the name with each profile. -/
def variants (separator : String) (profiles : List String) (name : String) : List String :=
  name :: profiles.map fun profile => name ++ separator ++ profile

/-- Every context in the order of declaration, repeated ones included. -/
def declared (lists profiles : List String) (default separator : String) : List String :=
  (nonBlank [default] ++ applicationNames lists).flatMap (variants separator (nonBlank profiles))

/-- Adds a text to texts in reverse order of appearance, unless it is among them. -/
def remember (seen : List String) (s : String) : List String :=
  if seen.contains s then seen else s :: seen

/-- The contexts by precedence: of repeated ones the first declared counts, and what is
declared later stands earlier. -/
def ofNames (lists profiles : List String) (default separator : String) : List String :=
  (declared lists profiles default separator).foldl remember []

/-! ## Small facts -/

theorem nodup_remember {seen : List String} (h : seen.Nodup) (s : String) :
    (remember seen s).Nodup := by
  unfold remember
  split
  · exact h
  · rename_i hs
    exact List.nodup_cons.2 ⟨fun m => hs (List.contains_iff_mem.2 m), h⟩

end SecretLayers.Contexts
