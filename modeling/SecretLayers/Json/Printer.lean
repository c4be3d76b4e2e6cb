import SecretLayers.Json.Basic
import SecretLayers.Number.Shortest
/-!
Writing JSON, on one line or indented by two blanks a level.
-/
namespace SecretLayers.Json

def hexDigit (n : Nat) : Char :=
  Char.ofNat (if n < 10 then 48 + n else 87 + n)

/-- Quotes, backslashes and control characters are escaped; all else stands for itself. -/
def escape (c : Char) : List Char :=
  if c = '"' then ['\\', '"']
  else if c = '\\' then ['\\', '\\']
  else if c = '\n' then ['\\', 'n']
  else if c = '\r' then ['\\', 'r']
  else if c = '\t' then ['\\', 't']
  else if c = '\x08' then ['\\', 'b']
  else if c = '\x0c' then ['\\', 'f']
  else if c.toNat < 0x20 then ['\\', 'u', '0', '0', hexDigit (c.toNat / 16), hexDigit (c.toNat % 16)]
  else [c]

def quote (s : String) : String :=
  String.ofList ('"' :: s.toList.flatMap escape ++ ['"'])

def Number.render : Number → String
  | .natural n => toString n
  | .negative n => "-" ++ toString n
  | .double x => (x.render? .standard).getD "null"

mutual

/-- The text on one line, without blanks. -/
def render : Json → String
  | .null => "null"
  | .bool b => if b then "true" else "false"
  | .number n => n.render
  | .string s => quote s
  | .array items => "[" ++ ",".intercalate (renderItems items) ++ "]"
  | .object members => "\x7b" ++ ",".intercalate (renderMembers members) ++ "\x7d"

def renderItems : List Json → List String
  | [] => []
  | v :: vs => v.render :: renderItems vs

def renderMembers : List (String × Json) → List String
  | [] => []
  | (name, v) :: ms => (quote name ++ ":" ++ v.render) :: renderMembers ms

end

/-- A container with each part on a line of its own; an empty one stays together. -/
def block (opening closing margin : String) : List String → String
  | [] => opening ++ closing
  | parts => opening ++ "\n" ++ ",\n".intercalate parts ++ "\n" ++ margin ++ closing

mutual

/-- The indented text, the first line standing where the caller is. -/
def renderIndented (margin : String) : Json → String
  | .null => "null"
  | .bool b => if b then "true" else "false"
  | .number n => n.render
  | .string s => quote s
  | .array items => block "[" "]" margin (indentItems (margin ++ "  ") items)
  | .object members => block "\x7b" "\x7d" margin (indentMembers (margin ++ "  ") members)

def indentItems (margin : String) : List Json → List String
  | [] => []
  | v :: vs => (margin ++ v.renderIndented margin) :: indentItems margin vs

def indentMembers (margin : String) : List (String × Json) → List String
  | [] => []
  | (name, v) :: ms =>
    (margin ++ quote name ++ ": " ++ v.renderIndented margin) :: indentMembers margin ms

end

end SecretLayers.Json
