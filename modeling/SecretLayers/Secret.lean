import SecretLayers.Text.Blank
/-!
Texts that must not be shown.
-/
namespace SecretLayers

/-- A text kept from diagnostics and from written configurations. -/
structure Secret where
  exposed : String
  deriving DecidableEq

namespace Secret

/-- What stands for a secret wherever one would be shown. -/
def redacted : String := "[REDACTED]"

/-- What stands for a secret in diagnostics. -/
def shown : String := "SecretString([REDACTED])"

/-- Whether nothing but blanks is in it. -/
def isEmpty (s : Secret) : Bool := Text.isBlankText s.exposed

end Secret
end SecretLayers
