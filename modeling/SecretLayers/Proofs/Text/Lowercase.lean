import SecretLayers.Text.Blank
import SecretLayers.Text.Lowercase
/-!
Lower case of any script does not depend on the case in which the letters `A` to `Z` are given: they
have case in both forms, so also the end of a word is found where it was.
-/
namespace SecretLayers.Text
set_option autoImplicit false

theorem toLower_cases (c : Char) : c.toLower = c ∨ ∃ n < 26, c = Char.ofNat (65 + n) := by
  unfold Char.toLower
  split
  · rename_i capital
    right
    have bounds : 65 ≤ c.toNat ∧ c.toNat ≤ 90 := capital
    refine ⟨c.toNat - 65, by omega, ?_⟩
    rw [Nat.add_sub_cancel' bounds.1, Char.ofNat_toNat]
  · exact .inl rfl

end SecretLayers.Text
