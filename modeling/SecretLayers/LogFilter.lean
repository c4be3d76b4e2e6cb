import SecretLayers.Error
import SecretLayers.Number.Decimal
import SecretLayers.Text.Alphanumeric
import SecretLayers.Text.Blank
/-!
Which log filters are accepted.

A filter is a list of directives between commas. A directive is a level, a target, or a
target with a level behind `=`; spans with fields may stand behind a target in brackets.
Only the form and the names of levels are checked.
-/
namespace SecretLayers.LogFilter

def levelNames : List String := ["off", "error", "warn", "info", "debug", "trace"]

/-- A level by name in any letter case, or by number. -/
def isLevel (s : List Char) : Bool :=
  levelNames.contains (Text.lowerAscii (String.ofList s)) ||
    (readNatural 10 maxUnsigned64 s).toOption.any (· ≤ 5)

/-- How far a directive has been read. -/
inductive Reading where
  | start
  /-- A level or a target. -/
  | name
  | span
  | field (text : List Char)
  | fields
  /-- Behind a span. -/
  | target
  | level (text : List Char)

namespace Reading

/-- One character more; nothing where a directive cannot go on like this. -/
def next? (c : Char) : Reading → Option Reading
  | start =>
    if c = '[' then some span
    else if c = '-' ∨ c = ':' ∨ c = '_' ∨ Text.isAlphanumeric c then some name
    else none
  | name => some (if c = '=' then level [] else if c = '[' then span else name)
  | span => some (if c = ']' then target else if c = '\x7b' then field [] else span)
  | field text =>
    if c = '\x7d' ∨ c = ',' then
      if text = [] then none else some (if c = ',' then field [] else fields)
    else some (field (text ++ [c]))
  | fields => if c = ']' then some target else none
  | target => if c = '=' then some (level []) else none
  | level text => some (level (text ++ [c]))

/-- Whether a directive may end here. -/
def isComplete : Reading → Bool
  | name | target => true
  | level text => text = [] || isLevel text
  | _ => false

end Reading

def isDirective (s : String) : Bool :=
  ((Text.trim s).toList.foldlM (fun r c => Reading.next? c r) .start).any Reading.isComplete

def invalid (filter : String) : Error :=
  .configuration ("Invalid log level '" ++ filter ++ "'")

/-- Accepts a filter, or says that it is none. -/
def check (filter : String) : Except Error Unit :=
  if ((Text.splitAt ',' filter).filter (· ≠ "")).all isDirective then .ok ()
  else .error (invalid filter)

/-- The filter where none is asked for. -/
def default : String := "info"

end SecretLayers.LogFilter
