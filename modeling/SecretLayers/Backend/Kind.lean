import SecretLayers.Text.Blank
/-!
The kinds of secrets engines that issue credentials, as far as they are built in.
-/
namespace SecretLayers.Backend

inductive Kind where
  | database
  | mysql
  | postgresql
  | cassandra
  | mongodb
  | elasticsearch
  | rabbitmq
  | consul
  | aws
  deriving DecidableEq, Repr

namespace Kind

def name : Kind → String
  | database => "database"
  | mysql => "mysql"
  | postgresql => "postgresql"
  | cassandra => "cassandra"
  | mongodb => "mongodb"
  | elasticsearch => "elasticsearch"
  | rabbitmq => "rabbitmq"
  | consul => "consul"
  | aws => "aws"

def all : List Kind :=
  [database, mysql, postgresql, cassandra, mongodb, elasticsearch, rabbitmq, consul, aws]

/-- Kinds served by the database engine. -/
def isDatabase : Kind → Bool
  | rabbitmq | consul | aws => false
  | _ => true

/-- The kind of exactly this name. -/
def ofName? (s : String) : Option Kind := all.find? fun kind => kind.name == s

/-- The kind a setting names, whatever its letter case and the blanks around it. -/
def ofText? (s : String) : Option Kind := ofName? (Text.lowerAscii (Text.trim s))

def unknownMessage (s : String) : String := "Unknown secret backend kind: " ++ s

/-! ## Small facts -/

theorem ofName?_name (kind : Kind) : ofName? kind.name = some kind := by cases kind <;> decide

end Kind
end SecretLayers.Backend
