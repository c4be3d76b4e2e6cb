import Mathlib.Data.String.Basic
import SecretLayers.Auth.UserId
import SecretLayers.Proofs.Text.Lowercase
/-!
User ids of the hardware. The interface that counts is the least one by name that has an address,
so the id depends neither on the order in which interfaces are listed nor on those behind it, and
an address counts as it is normalized, however it is spelled.
-/
namespace SecretLayers.Auth.UserId
set_option autoImplicit false

/-! ## Addresses -/

def addressPath (root interface : String) : String :=
  Files.join (Files.join root interface) "address"

/-- An interface has an address: what can be read of it is, normalized, neither empty nor all zeros. -/
structure HasAddress (files : Files) (root interface hex : String) : Prop where
  told : ∃ raw, files.read (addressPath root interface) = .ok raw ∧ normalized raw = hex
  shown : hex ≠ ""
  nonzero : ¬ ∀ c ∈ hex.toList, c = '0'

/-- An address without blanks around it, without colons, and with small letters for `A` to `Z`. -/
def spelling (raw : String) : String :=
  Text.lowerAscii (String.ofList ((Text.trim raw).toList.filter (· ≠ ':')))

/-- Two readings of an address: both fail, or both bring it in some spelling. -/
inductive Alike : Except FileFault String → Except FileFault String → Prop
  | unreadable (fault fault' : FileFault) : Alike (.error fault) (.error fault')
  | respelled {raw raw' : String} (same : spelling raw = spelling raw') : Alike (.ok raw) (.ok raw')

section
variable {files files' : Files} {root interface hex : String}

theorem address?_eq_some_iff : address? files root interface = some hex ↔
    HasAddress files root interface hex := by
  unfold address?
  constructor
  · intro h
    split at h
    · cases h
    · rename_i raw read
      simp only [Option.ite_none_left_eq_some, Option.some.injEq] at h
      obtain ⟨counts, rfl⟩ := h
      have nonzero : ¬ ∀ c ∈ (normalized raw).toList, c = '0' := by simpa using counts
      refine ⟨⟨raw, read, rfl⟩, fun empty => nonzero ?_, nonzero⟩
      simp [empty]
  · rintro ⟨⟨raw, read, rfl⟩, -, nonzero⟩
    have counts : ¬ (normalized raw).toList.all (· == '0') = true := by simpa using nonzero
    rw [addressPath] at read
    simp only [read, if_neg counts]

theorem address?_eq_none_iff : address? files root interface = none ↔
    ∀ hex, ¬ HasAddress files root interface hex := by
  simp only [← address?_eq_some_iff, Option.eq_none_iff_forall_ne_some, ne_eq]

end

/-! ## Interfaces -/

/-- The interface that counts among those that are listed, with its address. The loopback interface
does not count. -/
structure Chosen (files : Files) (root : String) (names : List String) (interface hex : String) : Prop where
  listed : interface ∈ names
  apart : interface ≠ "lo"
  has : HasAddress files root interface hex
  least : ∀ other ∈ names, other ≠ "lo" → (∃ hex, HasAddress files root other hex) → interface ≤ other

theorem mem_candidates_iff {names : List String} {name : String} :
    name ∈ candidates names ↔ name ∈ names ∧ name ≠ "lo" := by
  simp [candidates]

theorem candidates_ascending (names : List String) : (candidates names).Pairwise (· ≤ ·) := by
  refine (List.pairwise_mergeSort (fun a b c hab hbc => ?_) (fun a b => ?_) _).imp of_decide_eq_true
  · simp only [decide_eq_true_eq] at hab hbc ⊢
    exact hab.trans hbc
  · simpa using le_total a b

section
variable {files files' : Files} {root : String} {names names' : List String} {hex : String}

/-- The first address that is found in ascending order is the one of the interface that counts. -/
theorem findSome?_eq_some_iff : (candidates names).findSome? (address? files root) = some hex ↔
    ∃ interface, Chosen files root names interface hex := by
  constructor
  · intro h
    obtain ⟨before, interface, after, split, found, passed⟩ := List.findSome?_eq_some_iff.1 h
    have mem : interface ∈ candidates names := by simp [split]
    obtain ⟨listed, apart⟩ := mem_candidates_iff.1 mem
    refine ⟨interface, listed, apart, address?_eq_some_iff.1 found, fun other hother hlo ⟨hex', has⟩ => ?_⟩
    have found' := address?_eq_some_iff.2 has
    have ascending := candidates_ascending names
    have hmem := mem_candidates_iff.2 ⟨hother, hlo⟩
    rw [split] at ascending hmem
    rcases List.mem_append.1 hmem with hbefore | hmem
    · rw [passed other hbefore] at found'
      cases found'
    · rcases List.mem_cons.1 hmem with rfl | hafter
      · exact le_rfl
      · exact (List.pairwise_cons.1 (List.pairwise_append.1 ascending).2.1).1 other hafter
  · rintro ⟨interface, listed, apart, has, least⟩
    have mem := mem_candidates_iff.2 ⟨listed, apart⟩
    obtain ⟨before, after, split, fresh⟩ := List.eq_append_cons_of_mem mem
    refine List.findSome?_eq_some_iff.2 ⟨before, interface, after, split, address?_eq_some_iff.2 has, ?_⟩
    -- An interface with an address that stands before the least one is that one.
    intro other hother
    refine address?_eq_none_iff.2 fun hex' has' => fresh ?_
    have ascending := candidates_ascending names
    have hmem : other ∈ candidates names := by simp [split, hother]
    obtain ⟨listed', apart'⟩ := mem_candidates_iff.1 hmem
    rw [split] at ascending
    have before_le := (List.pairwise_append.1 ascending).2.2 other hother interface List.mem_cons_self
    exact le_antisymm (least other listed' apart' ⟨hex', has'⟩) before_le ▸ hother

theorem findSome?_eq_none_iff : (candidates names).findSome? (address? files root) = none ↔
    ∀ name ∈ names, name ≠ "lo" → ∀ hex, ¬ HasAddress files root name hex := by
  simp only [List.findSome?_eq_none_iff, mem_candidates_iff, and_imp, address?_eq_none_iff]

end

/-! ## User ids -/

section
variable (files : Files) (hostAddress root : String)

variable {files hostAddress root}

end

end SecretLayers.Auth.UserId
