import SecretLayers.Backend.Descriptor
import SecretLayers.Backend.Entry
import SecretLayers.Backend.Template
import SecretLayers.Error
import SecretLayers.Text.Quoted
/-!
Factories turn descriptors of credential backends into entries.

Of the factories of a list, the first that supports a descriptor builds its entry.
-/
namespace SecretLayers.Backend

structure Factory where
  name : String
  supports : Descriptor → Bool
  build : Descriptor → Except Error Entry

/-! ## Credentials -/

/-- A family of engines that issue credentials for a role. -/
structure Credentials where
  name : String
  kinds : List Kind
  fields : List String
  /-- Whether the engines know roles with a fixed account. -/
  staticRoles : Bool

namespace Credentials

def database : Credentials :=
  { name := "database", kinds := Kind.all.filter Kind.isDatabase,
    fields := ["username", "password"], staticRoles := true }

def rabbitmq : Credentials :=
  { name := "rabbitmq", kinds := [.rabbitmq], fields := ["username", "password"],
    staticRoles := false }

def consul : Credentials :=
  { name := "consul", kinds := [.consul], fields := ["token"], staticRoles := false }

def aws : Credentials :=
  { name := "aws", kinds := [.aws], fields := ["access_key", "secret_key", "security_token"],
    staticRoles := false }

def all : List Credentials := [database, rabbitmq, consul, aws]

/-- The first part of the property names for a kind. -/
def group : Kind → String
  | .database | .mysql | .postgresql => "datasource"
  | kind => kind.name

def defaultProperty (kind : Kind) (field : String) : String := group kind ++ "." ++ field

def pathTemplate (isStatic : Bool) : String :=
  if isStatic then "\x7bbackend\x7d/static-creds/\x7brole\x7d"
  else "\x7bbackend\x7d/creds/\x7brole\x7d"

/-- The property of every field, as the descriptor overrides it. -/
def names (c : Credentials) (kind : Kind) (d : Descriptor) : Properties :=
  (Properties.ofPairs (c.fields.map fun field => (field, defaultProperty kind field))).extend
    d.propertyNames.toList

def unknownKind (kind : String) : Error :=
  .configuration ("Unknown backend kind '" ++ kind ++ "'")

def missingRole (kind : Kind) : Error :=
  .configuration ("Role must not be empty for the " ++ kind.name ++ " backend")

def supports (c : Credentials) (d : Descriptor) : Bool :=
  d.builtinKind?.any c.kinds.contains

def build (c : Credentials) (d : Descriptor) : Except Error Entry :=
  match d.builtinKind? with
  | none => .error (unknownKind d.kind)
  | some kind =>
    match d.role? with
    | none => .error (missingRole kind)
    | some role =>
      let values := Properties.ofPairs [("backend", d.mount kind), ("role", role)]
      .ok
        { name := Template.expand (pathTemplate (d.staticRole && c.staticRoles)) values
          transform := .rename (c.names kind d)
          values
          order := d.order }

def factory (c : Credentials) : Factory :=
  { name := c.name, supports := c.supports, build := c.build }

end Credentials

namespace Factory

/-- The factories for the kinds that are built in. -/
def builtin : List Factory := Credentials.all.map Credentials.factory

end Factory

/-! ## Resolution -/

/-- What a list of descriptors comes to. -/
structure Resolution where
  entries : List Entry := []
  /-- Kinds of enabled descriptors that no factory supports. -/
  unsupported : List String := []

/-- Resolves every enabled descriptor with the first factory that supports it. The first
descriptor whose factory rejects it ends the resolution. -/
def resolve (factories : List Factory) : List Descriptor → Except Error Resolution
  | [] => .ok {}
  | d :: ds =>
    if !d.enabled then resolve factories ds
    else
      match factories.find? fun f => f.supports d with
      | some f => do
        let entry ← f.build d
        let rest ← resolve factories ds
        return { rest with entries := entry :: rest.entries }
      | none => do
        let rest ← resolve factories ds
        return { rest with unsupported := d.kind :: rest.unsupported }

/-- How a list of factories is shown in diagnostics. -/
def showFactories (factories : List Factory) : String :=
  "SecretBackendRegistry \x7b factories: [" ++
    ", ".intercalate (factories.map fun f => Text.quoted f.name) ++ "] \x7d"

end SecretLayers.Backend
