import SecretLayers.Json.Printer
import SecretLayers.Properties.View
import SecretLayers.Yaml.Printer
/-!
Records and views as JSON, YAML and tables.

Values of properties are masked unless they are asked for; nothing else of an output
depends on them then.
-/
namespace SecretLayers.Cli

inductive Format where
  | json
  | yaml
  | table
  deriving DecidableEq, Repr

/-! ## Records -/

inductive Cell where
  | absent
  | flag (b : Bool)
  | text (s : String)
  deriving DecidableEq, Repr

/-- Named values in the order in which they are written. -/
abbrev Row := List (String × Cell)

def Cell.json : Cell → String
  | absent => "null"
  | flag b => (Json.bool b).render
  | text s => Json.quote s

def Row.json (margin : String) (row : Row) : String :=
  Json.block "\x7b" "\x7d" margin
    (row.map fun (name, cell) => margin ++ "  " ++ Json.quote name ++ ": " ++ cell.json)

/-- A value and the end of its line. -/
def Cell.yaml (margin : String) : Cell → String
  | absent => "null\n"
  | flag b => if b then "true\n" else "false\n"
  | text s => Yaml.textLine margin s

/-- What a document needs behind a value that ends it. -/
def Cell.closing : Cell → String
  | text s => Yaml.closingMark s
  | _ => ""

/-- The lines of a record; the first one starts with `lead`, the others with blanks. -/
def Row.yaml (lead margin : String) : Row → String
  | [] => ""
  | (name, cell) :: rest =>
    lead ++ name ++ ": " ++ cell.yaml (margin ++ "  ") ++ Row.yaml margin margin rest

def Row.closing (row : Row) : String :=
  match row.getLast? with
  | some (_, cell) => cell.closing
  | none => ""

/-- A single record in a format other than a table. -/
def renderRow? (row : Row) : Format → Option String
  | .json => some (row.json "")
  | .yaml => some (row.yaml "" "" ++ row.closing)
  | .table => none

def noTable : String := "Table format requires custom implementation per data type"

/-! ## Views -/

/-- One property, as it is listed. -/
structure Property where
  key : String
  value : String
  source : String

def mask : String := "******"

/-- The properties of a view in ascending order of keys. -/
def properties (view : View) (showValues : Bool) : List Property :=
  view.merged.toList.map fun (key, value) =>
    { key, value := if showValues then value else mask, source := (view.origin? key).getD "" }

def Property.row (p : Property) : Row :=
  [("key", .text p.key), ("value", .text p.value), ("source", .text p.source)]

def listJson (rows : List Row) : String :=
  Json.block "[" "]" "" (rows.map fun row => "  " ++ row.json "  ")

def listYaml (rows : List Row) : String :=
  if rows.isEmpty then "[]\n"
  else String.join (rows.map (Row.yaml "- " "  ")) ++ (rows.getLast?.elim "" Row.closing)

/-- Fills a text with blanks up to a number of characters. -/
def padded (width : Nat) (s : String) : String :=
  s ++ String.ofList (List.replicate (width - s.length) ' ')

/-- The width of a column: the most bytes any of its texts takes. -/
def columnWidth (least : Nat) (texts : List String) : Nat :=
  texts.foldl (fun w s => max w s.utf8ByteSize) least

def tableLine (keyWidth valueWidth : Nat) (p : Property) : String :=
  padded keyWidth p.key ++ "  " ++ padded valueWidth p.value ++ "  " ++ p.source ++ "\n"

def table (ps : List Property) (sources : Nat) (composedAt : String) : String :=
  let keyWidth := columnWidth 3 (ps.map (·.key))
  let valueWidth := columnWidth 5 (ps.map (·.value))
  String.join ((({ key := "KEY", value := "VALUE", source := "SOURCE" } : Property) :: ps).map
      (tableLine keyWidth valueWidth)) ++
    "\n" ++ toString ps.length ++ " properties from " ++ toString sources ++
    " sources (composed at " ++ composedAt ++ ")\n"

/-- The properties of a view with the sources they come from. -/
def renderView (view : View) (composedAt : String) (showValues : Bool) (format : Format) : String :=
  let ps := properties view showValues
  match format with
  | .json => listJson (ps.map Property.row)
  | .yaml => listYaml (ps.map Property.row)
  | .table => table ps view.size composedAt

end SecretLayers.Cli
