import Mathlib.Data.List.DropRight
import SecretLayers.Digest.Sha256
import SecretLayers.Text.Blank
/-!
Texts of more than blanks: to trim a text does not make it blank, and the hexadecimal text of a digest
never is.
-/
namespace SecretLayers
set_option autoImplicit false

namespace Text

theorem all_dropWhile (p : Char → Bool) (cs : List Char) : (cs.dropWhile p).all p = cs.all p := by
  induction cs with
  | nil => rfl
  | cons c cs ih =>
    rw [List.dropWhile_cons, List.all_cons]
    cases hc : p c with
    | true => simpa using ih
    | false => simp [hc]

theorem all_strip (p : Char → Bool) (cs : List Char) : (strip p cs).all p = cs.all p := by
  rw [strip, List.all_reverse, all_dropWhile, List.all_reverse, all_dropWhile]

theorem isBlankText_trim (s : String) : isBlankText (trim s) = isBlankText s := by
  rw [isBlankText, trim, String.toList_ofList, all_strip, isBlankText]

theorem strip_eq_nil_iff (p : Char → Bool) (cs : List Char) : strip p cs = [] ↔ cs.all p = true := by
  constructor
  · intro h
    rw [← all_strip, h]
    rfl
  · intro h
    have hdrop : cs.dropWhile p = [] := by
      induction cs with
      | nil => rfl
      | cons c cs ih =>
        rw [List.all_cons, Bool.and_eq_true] at h
        rw [List.dropWhile_cons_of_pos h.1, ih h.2]
    rw [strip, hdrop]
    rfl

theorem trim_eq_empty_iff (s : String) : trim s = "" ↔ isBlankText s = true := by
  rw [isBlankText, ← strip_eq_nil_iff, trim, ← String.toList_eq_nil_iff, String.toList_ofList]

theorem strip_eq_self {p : Char → Bool} {cs : List Char} (h : ∀ c ∈ cs, p c = false) : strip p cs = cs := by
  have kept (l : List Char) (hl : ∀ c ∈ l, p c = false) : l.dropWhile p = l := by
    rw [List.dropWhile_eq_self_iff]
    intro hlength
    simp [hl]
  rw [strip, kept cs h, kept cs.reverse (by simpa using h), List.reverse_reverse]

/-- What has been cut at both ends has nothing left to cut there. -/
theorem strip_strip (p : Char → Bool) (cs : List Char) : strip p (strip p cs) = strip p cs := by
  have cut : strip p cs = (cs.dropWhile p).rdropWhile p := rfl
  have front : (strip p cs).dropWhile p = strip p cs := by
    rw [cut, List.dropWhile_eq_self_iff]
    intro hlength
    -- What is cut from the end leaves the first character where it is.
    rw [(List.rdropWhile_prefix p _).getElem hlength]
    exact List.dropWhile_eq_self_iff.1 (List.dropWhile_idempotent p cs) _
  calc strip p (strip p cs) = ((strip p cs).dropWhile p).rdropWhile p := rfl
    _ = ((cs.dropWhile p).rdropWhile p).rdropWhile p := by rw [front, cut]
    _ = strip p cs := List.rdropWhile_idempotent p _

theorem trim_trim (s : String) : trim (trim s) = trim s := by
  rw [trim, trim, String.toList_ofList, strip_strip]

theorem trim_comp_trim : trim ∘ trim = trim := by
  funext s
  rw [Function.comp_apply, trim_trim]

theorem trimmed?_comp_trim : trimmed? ∘ trim = trimmed? := by
  funext s
  rw [Function.comp_apply, trimmed?, isBlankText_trim, trim_trim, trimmed?]

/-- The trimmed text counts just where it is not empty. -/
theorem trimmed?_eq_some_iff {s t : String} : trimmed? s = some t ↔ t = trim s ∧ trim s ≠ "" := by
  unfold trimmed?
  rw [Ne, trim_eq_empty_iff]
  split
  · rename_i blank
    simp [blank]
  · rename_i shown
    simp [shown, eq_comm]

theorem isBlankText_of_mem {s : String} {c : Char} (h : c ∈ s.toList) (shown : isBlank c = false) :
    isBlankText s = false :=
  List.all_eq_false.2 ⟨c, h, by simp [shown]⟩

/-- Without line ends a text is as blank as with them. -/
theorem isBlankText_filter {s : String} {p : Char → Bool} (blank : ∀ c, p c = false → isBlank c = true) :
    isBlankText (String.ofList (s.toList.filter p)) = isBlankText s := by
  rw [isBlankText, String.toList_ofList, List.all_filter, isBlankText]
  congr 1
  funext c
  cases hc : p c with
  | true => rfl
  | false => simp [blank c hc]

end Text

namespace Sha256

theorem isBlank_digitChar : ∀ n < 16, Text.isBlank (Nat.digitChar n) = false := by decide

/-- The last digit of a word is one of its digits. -/
theorem digitChar_mem_hexDigits (w : UInt32) : Nat.digitChar (w.toNat % 16) ∈ hexDigits w := by
  refine List.mem_append_right _ ?_
  rw [Nat.toDigits_eq_if (by decide)]
  split
  · rename_i small
    rw [Nat.mod_eq_of_lt small]
    exact List.mem_singleton_self _
  · exact List.mem_append_right _ (List.mem_singleton_self _)

theorem isBlankText_ofText (s : String) : Text.isBlankText (ofText s) = false := by
  refine Text.isBlankText_of_mem (c := Nat.digitChar ((digest s.toUTF8.toList).a.toNat % 16)) ?_
    (isBlank_digitChar _ (Nat.mod_lt _ (by decide)))
  rw [ofText, Words.hex, String.toList_ofList, List.flatMap_cons]
  exact List.mem_append_left _ (digitChar_mem_hexDigits _)

end Sha256
end SecretLayers
