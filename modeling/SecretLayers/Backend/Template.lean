import SecretLayers.Properties.Basic
/-!
Templates with named places.

A name in braces stands for its value. Names without a value stay as they are, braces
included, and values are not looked at again.
-/
namespace SecretLayers.Backend.Template

/-- The value of a name, or the place as it was written. -/
def fill (values : Properties) (name : List Char) : List Char :=
  match values[String.ofList name]? with
  | some value => value.toList
  | none => '\x7b' :: name ++ ['\x7d']

/-- The name up to the closing brace, and what follows the brace. -/
def closing? (cs : List Char) : Option (List Char × List Char) :=
  match cs.dropWhile (· ≠ '\x7d') with
  | [] => none
  | _ :: rest => some (cs.takeWhile (· ≠ '\x7d'), rest)

theorem length_lt_of_closing? {cs name rest : List Char} (h : closing? cs = some (name, rest)) :
    rest.length < cs.length := by
  have hl := (List.dropWhile_sublist (p := (· ≠ '\x7d')) (l := cs)).length_le
  unfold closing? at h
  split at h
  · simp at h
  · rename_i c tail heq
    rw [heq] at hl
    simp only [Option.some.injEq, Prod.mk.injEq] at h
    have : tail = rest := h.2
    subst this
    simp only [List.length_cons] at hl
    omega

/-- Fills the places of a text. A brace that is never closed stays, with all after it. -/
def expandChars (values : Properties) : List Char → List Char
  | [] => []
  | c :: cs =>
    if c = '\x7b' then
      match _h : closing? cs with
      | none => c :: cs
      | some (name, rest) => fill values name ++ expandChars values rest
    else c :: expandChars values cs
  termination_by cs => cs.length
  decreasing_by
    · have := length_lt_of_closing? _h
      simp only [List.length_cons]
      omega
    · simp

def expand (template : String) (values : Properties) : String :=
  String.ofList (expandChars values template.toList)

end SecretLayers.Backend.Template
