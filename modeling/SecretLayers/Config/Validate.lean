import SecretLayers.Config.Read
import SecretLayers.Error
import SecretLayers.Json.Printer
import SecretLayers.Url.Reference
import SecretLayers.Yaml.Document
/-!
Which configurations are accepted.

Bounds of single fields are checked together, and all that fail are reported. The address
and the kinds of the backends are checked after them.
-/
namespace SecretLayers.Config

/-! ## Bounds of fields -/

/-- A number as a report on bounds shows it. -/
def shownNumber (n : Json.Number) : String :=
  match n with
  | .double x => if x.isFinite then "Number(" ++ n.render ++ ")" else "Null"
  | n => "Number(" ++ n.render ++ ")"

/-- Says that a value is out of bounds. -/
def rangeReport (low high value : Json.Number) : String :=
  "Validation error: range [\x7b\"max\": " ++ shownNumber high ++ ", \"min\": " ++ shownNumber low ++
    ", \"value\": " ++ shownNumber value ++ "\x7d]"

/-- A report on a field, if its value is not as it should be. -/
def check (holds : Bool) (path report : String) : List String :=
  if holds then [] else [path ++ ": " ++ report]

/-- Within bounds; a value that is not a number is not beyond either of them. -/
def isWithin (low high x : Binary64) : Bool := !(x.lt low) && !(high.lt x)

def checkRenewal (path : String) (o : RenewalOptions) : List String :=
  check (1 ≤ o.pollSeconds && o.pollSeconds ≤ 3600) (path ++ ".poll_interval_seconds")
      (rangeReport (.natural 1) (.natural 3600) (.natural o.pollSeconds)) ++
    check (isWithin .zero .one o.threshold) (path ++ ".expiry_threshold")
      (rangeReport (.double .zero) (.double .one) (.double o.threshold))

def isTimeout (seconds : Nat) : Bool := 1 ≤ seconds && seconds ≤ 300

/-- Reports on all fields that are out of bounds. -/
def boundReports (c : Config) : List String :=
  check (c.address ≠ "") "address" "Address cannot be empty" ++
    check (isTimeout c.connectionTimeout) "connection_timeout_seconds"
      "Connection timeout must be between 1 and 300 seconds" ++
    check (isTimeout c.readTimeout) "read_timeout_seconds"
      "Read timeout must be between 1 and 300 seconds" ++
    check (c.generic.backend ≠ "") "generic.backend" "generic backend path must not be empty" ++
    check (c.generic.profileSeparator ≠ "") "generic.profile_separator"
      "profile separator must not be empty" ++
    checkRenewal "lifecycle" c.lifecycle ++ checkRenewal "lease_refresh" c.leaseRefresh

def outOfBounds (reports : List String) : Error :=
  .configuration ("\n".intercalate (reports.mergeSort (· ≤ ·)))

/-! ## Address and backends -/

def invalidAddress (address : String) (fault : Url.Fault) : Error :=
  .configuration ("Invalid secret store address '" ++ address ++ "': " ++ fault.message)

def unsupportedScheme : Error := .configuration "Secret store address must use http or https"

def blankKind (index : Nat) : Error :=
  .configuration ("backends[" ++ toString index ++ "].kind must not be empty")

/-- The place of the first backend without a kind. -/
def blankKind? (backends : List Backend.Descriptor) : Option Nat :=
  backends.findIdx? fun d => Text.isBlankText d.kind

def validate (c : Config) : Except Error Unit :=
  if c.boundReports ≠ [] then .error (outOfBounds c.boundReports)
  else
    match Url.parse none c.address with
    | .error fault => .error (invalidAddress c.address fault)
    | .ok url =>
      if !Url.isHttp url.scheme then .error unsupportedScheme
      else match blankKind? c.backends with
        | some index => .error (blankKind index)
        | none => .ok ()

theorem validate_ok_iff {c : Config} : c.validate = .ok () ↔
    c.boundReports = [] ∧ (∃ url, Url.parse none c.address = .ok url ∧ Url.isHttp url.scheme) ∧
      blankKind? c.backends = none := by
  unfold validate
  split
  · rename_i reports
    simp [reports]
  · rename_i silent
    rw [ne_eq, Classical.not_not] at silent
    cases Url.parse none c.address with
    | error fault => simp
    | ok url =>
      cases http : Url.isHttp url.scheme with
      | false => simp [http]
      | true =>
        cases blankKind? c.backends with
        | some index => simp [http]
        | none => simp [http, silent]

/-! ## Configurations in YAML -/

def unreadable : Error := .configuration "invalid YAML configuration"

/-- The configuration in a YAML text, if it is accepted. -/
def ofYaml (text : String) : Except Error Config :=
  match (Yaml.Node.parse? text).bind read? with
  | none => .error unreadable
  | some c => c.validate.map fun _ => c

end SecretLayers.Config
