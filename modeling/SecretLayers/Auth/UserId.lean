import SecretLayers.Config.Basic
import SecretLayers.Digest.Sha256
import SecretLayers.Error
import SecretLayers.FileTree
import SecretLayers.Text.Lowercase
import SecretLayers.Text.Quoted
/-!
User ids derived from the machine.

A hardware address counts without its colons and in lower case. Without a given interface
the first one by name that has an address is taken, the loopback interface apart.
-/
namespace SecretLayers.Auth

/-- Where the system lists its network interfaces. -/
def interfaceRoot : String := "/sys/class/net"

inductive UserId where
  | literal (text : String)
  | ipAddress
  | macAddress (interface : Option String) (root : String)
  deriving DecidableEq, Repr

namespace UserId

/-- The hardware address of an interface, if one is named by more than blanks. -/
def ofInterface (interface : Option String) (root : String) : UserId :=
  .macAddress (interface.filter fun s => !Text.isBlankText s) root

/-- The user id that settings ask for. -/
def ofSettings (c : Config.AppId) : UserId :=
  match Text.upperAscii (Text.trim c.userId) with
  | "IP_ADDRESS" => .ipAddress
  | "MAC_ADDRESS" => ofInterface c.networkInterface interfaceRoot
  | _ => .literal (Text.trim c.userId)

/-- How a user id is shown in diagnostics. -/
def shown : UserId → String
  | .literal text => "StaticUserId(" ++ Text.quoted text ++ ")"
  | .ipAddress => "IpAddressUserId"
  | .macAddress interface root =>
    "MacAddressUserId \x7b interface: " ++ Text.quotedOption interface ++ ", sysfs_root: " ++
      Text.quoted root ++ " \x7d"

/-! ## Hardware addresses -/

/-- An address without blanks around it, without colons, and in lower case. -/
def normalized (raw : String) : String :=
  Text.lower (String.ofList ((Text.trim raw).toList.filter (· ≠ ':')))

/-- The address of an interface; an empty one or one of zeros is none. -/
def address? (files : Files) (root interface : String) : Option String :=
  match files.read (Files.join (Files.join root interface) "address") with
  | .error _ => none
  | .ok raw =>
    let hex := normalized raw
    if hex.toList.all (· == '0') then none else some hex

def noAddress (interface : String) : Error :=
  .configuration ("Network interface '" ++ interface ++ "' has no hardware address")

def noInterface : Error := .configuration "No network interface with a hardware address found"

/-- The interfaces to try, in ascending order. -/
def candidates (names : List String) : List String :=
  (names.filter (· ≠ "lo")).mergeSort (· ≤ ·)

def hardwareAddress (files : Files) (root : String) : Option String → Except Error String
  | some interface =>
    match address? files root interface with
    | some hex => .ok hex
    | none => .error (noAddress interface)
  | none =>
    match files.list root with
    | .error fault => .error (.io fault.message)
    | .ok names =>
      match (candidates names).findSome? (address? files root) with
      | some hex => .ok hex
      | none => .error noInterface

/-- The user id itself. -/
def create (files : Files) (hostAddress : String) : UserId → Except Error String
  | .literal text => .ok text
  | .ipAddress => .ok (Sha256.ofText hostAddress)
  | .macAddress interface root => (hardwareAddress files root interface).map Sha256.ofText

end UserId
end SecretLayers.Auth
