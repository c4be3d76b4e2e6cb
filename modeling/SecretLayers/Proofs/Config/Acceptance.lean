import SecretLayers.Config.File
import SecretLayers.Proofs.Config.Variables
import SecretLayers.Proofs.Lease.Threshold
/-!
Configurations that were accepted, whether they were read from YAML, from a file or from
variables, or put together in a program. Their fractions are doubles within the bounds, if
they are numbers.
-/
namespace SecretLayers
set_option autoImplicit false

/-! ## Doubles that are read -/

namespace Binary64

theorem isPrecise_nearest (d : Decimal) : d.nearest.IsPrecise := by
  unfold Decimal.nearest
  dsimp only
  split
  · exact ⟨Nat.two_pow_pos 53⟩
  · split
    · exact isPrecise_infinity _
    · split
      · exact ⟨Nat.two_pow_pos 53⟩
      · split
        · exact isPrecise_ofRatio _ _ Nat.one_pos
        · exact isPrecise_ofRatio _ _ (Nat.pow_pos (by decide))

theorem isPrecise_readSpecial? {negative : Bool} {cs : List Char} {x : Binary64}
    (h : readSpecial? negative cs = some x) : x.IsPrecise := by
  unfold readSpecial? at h
  dsimp only at h
  split at h
  · cases h
    exact isPrecise_infinity _
  · split at h
    · cases h
      exact isPrecise_nan _
    · cases h

theorem isPrecise_readDouble? {s : String} {x : Binary64} (h : readDouble? s = some x) :
    x.IsPrecise := by
  simp only [readDouble?, Option.or_eq_some_iff, Option.map_eq_some_iff] at h
  obtain h | ⟨-, d, -, rfl⟩ := h
  · exact isPrecise_readSpecial? h
  · exact isPrecise_nearest d

theorem isPrecise_double? {v : Yaml.Node} {x : Binary64} (h : Document.double? v = some x) :
    x.IsPrecise := by
  simp only [Document.double?, Option.bind_eq_some_iff] at h
  obtain ⟨s, -, h⟩ := h
  unfold Yaml.double? at h
  split at h
  · rename_i y hlookup
    cases h
    have special : ∀ m ∈ Yaml.specialDoubles, m.2.IsPrecise := by
      simp [Yaml.specialDoubles, isPrecise_infinity, isPrecise_nan]
    obtain ⟨before, after, hmem, -⟩ := List.lookup_eq_some_iff.1 hlookup
    exact special (s, x) (by simp [hmem])
  · exact isPrecise_readDouble? (Option.filter_eq_some_iff.1 h).1

end Binary64

namespace RenewalOptions

theorem isPrecise_default : ({} : RenewalOptions).threshold.IsPrecise := by
  dsimp only
  exact Binary64.isPrecise_ofRatio false 1 (by decide)

end RenewalOptions

namespace Config
open Binary64

/-- The fractions are doubles. -/
structure IsPrecise (c : Config) : Prop where
  lifecycle : c.lifecycle.threshold.IsPrecise
  leaseRefresh : c.leaseRefresh.threshold.IsPrecise

theorem isPrecise_default : ({} : Config).IsPrecise := by
  constructor
  · exact RenewalOptions.isPrecise_default
  · exact RenewalOptions.isPrecise_default

/-! ## Documents -/

theorem of_withDefault {ν α : Type} {P : α → Prop} {fs : Document.Fields ν} {default a : α}
    {read : ν → Option α} {name : String} (h : fs.withDefault default read name = some a)
    (hdefault : P default) (hread : ∀ v a, read v = some a → P a) : P a := by
  unfold Document.Fields.withDefault at h
  split at h
  · rename_i v _
    exact hread v a h
  · cases h
    exact hdefault

theorem isPrecise_renewal {v : Yaml.Node} {o : RenewalOptions}
    (h : RenewalOptions.read? {} v = some o) : o.threshold.IsPrecise := by
  unfold RenewalOptions.read? at h
  obtain ⟨fs, -, h⟩ := Option.bind_eq_some_iff.1 h
  obtain ⟨enabled, -, h⟩ := Option.bind_eq_some_iff.1 h
  obtain ⟨pollSeconds, -, h⟩ := Option.bind_eq_some_iff.1 h
  obtain ⟨threshold, hthreshold, h⟩ := Option.bind_eq_some_iff.1 h
  cases h
  exact of_withDefault (P := Binary64.IsPrecise) hthreshold RenewalOptions.isPrecise_default
    fun _ _ => isPrecise_double?

theorem isPrecise_read? {v : Yaml.Node} {c : Config} (h : read? v = some c) : c.IsPrecise := by
  unfold read? at h
  -- The fields up to the backends are passed over.
  iterate 14 obtain ⟨_, -, h⟩ := Option.bind_eq_some_iff.1 h
  obtain ⟨lifecycle, hlifecycle, h⟩ := Option.bind_eq_some_iff.1 h
  obtain ⟨leaseRefresh, hleaseRefresh, h⟩ := Option.bind_eq_some_iff.1 h
  obtain ⟨failFast, -, h⟩ := Option.bind_eq_some_iff.1 h
  cases h
  constructor
  · exact of_withDefault (P := fun o => o.threshold.IsPrecise) hlifecycle
      RenewalOptions.isPrecise_default fun _ _ => isPrecise_renewal
  · exact of_withDefault (P := fun o => o.threshold.IsPrecise) hleaseRefresh
      RenewalOptions.isPrecise_default fun _ _ => isPrecise_renewal

theorem ofYaml_ok {text : String} {c : Config} (h : ofYaml text = .ok c) :
    c.validate = .ok () ∧ c.IsPrecise := by
  unfold ofYaml at h
  split at h
  · cases h
  · rename_i d hread
    obtain ⟨node, -, hnode⟩ := Option.bind_eq_some_iff.1 hread
    cases hvalid : d.validate with
    | error e =>
      rw [hvalid] at h
      cases h
    | ok _ =>
      rw [hvalid] at h
      cases h
      exact ⟨hvalid, isPrecise_read? hnode⟩

theorem ofFile_ok {files : Files} {path : String} {c : Config} (h : ofFile files path = .ok c) :
    c.validate = .ok () ∧ c.IsPrecise := by
  unfold ofFile at h
  split at h
  · cases h
  · exact ofYaml_ok h

/-! ## Variables -/

theorem Holds.isPrecise {lookup : Lookup} {name : String} {default x : Binary64}
    (h : Holds lookup .fraction name default x) (precise : default.IsPrecise) : x.IsPrecise := by
  obtain ⟨s, -, spells⟩ | ⟨-, rfl⟩ := h
  · exact isPrecise_readDouble? (Spelling.readDouble?_iff.2 spells)
  · exact precise

theorem Overwrites.isPrecise {lookup : Lookup} {d c : Config} (h : Overwrites lookup d c)
    (precise : d.IsPrecise) : c.IsPrecise where
  lifecycle := h.threshold.isPrecise precise.lifecycle
  leaseRefresh := by
    rw [h.leaseRefreshOthers.2]
    exact precise.leaseRefresh

theorem ofVariables_ok {lookup : Lookup} {c : Config} (h : ofVariables lookup = .ok c) :
    c.validate = .ok () ∧ c.IsPrecise := by
  obtain ⟨overwrites, valid⟩ := ofVariables_ok_iff.1 h
  exact ⟨valid, overwrites.isPrecise isPrecise_default⟩

/-! ## Acceptance -/

/-- A configuration that was accepted: read from YAML, a file or variables, or put together
in a program and validated there. -/
inductive Accepted (c : Config) : Prop
  | yaml {text : String} (read : ofYaml text = .ok c)
  | file {files : Files} {path : String} (read : ofFile files path = .ok c)
  | environment {lookup : Lookup} (read : ofVariables lookup = .ok c)
  | built (precise : c.IsPrecise) (valid : c.validate = .ok ())

namespace Accepted
variable {c : Config}

theorem valid_and_precise (h : c.Accepted) : c.validate = .ok () ∧ c.IsPrecise := by
  cases h with
  | yaml read => exact ofYaml_ok read
  | file read => exact ofFile_ok read
  | environment read => exact ofVariables_ok read
  | built precise valid => exact ⟨valid, precise⟩

theorem boundReports_eq (h : c.Accepted) : c.boundReports = [] :=
  (validate_ok_iff.1 h.valid_and_precise.1).1

theorem isWithin (h : c.Accepted) :
    Config.isWithin .zero .one c.lifecycle.threshold = true ∧
      Config.isWithin .zero .one c.leaseRefresh.threshold = true := by
  have reports := h.boundReports_eq
  have silent {holds : Bool} {path report : String} (hcheck : check holds path report = []) :
      holds = true := by
    cases holds with
    | true => rfl
    | false => cases hcheck
  simp only [boundReports, checkRenewal, List.append_eq_nil_iff] at reports
  obtain ⟨⟨-, -, hlifecycle⟩, -, hleaseRefresh⟩ := reports
  exact ⟨silent hlifecycle, silent hleaseRefresh⟩

end Accepted

end Config
end SecretLayers
