import SecretLayers.Text.Alphanumeric
import SecretLayers.Text.Blank
/-!
Files of variables, a line `NAME=value` for each.

Quotes and backslashes may carry a value over several lines. Outside of single quotes a
dollar sign stands for the value of the variable behind it, taken from the environment or
from the lines before. A variable that the environment has already keeps its value.
-/
namespace SecretLayers.Cli.DotEnv

/-- A line that is no assignment, and the place where it stops being one. -/
structure Fault where
  line : String
  index : Nat
  deriving DecidableEq, Repr

def Fault.message (f : Fault) : String :=
  "Error parsing line: '" ++ f.line ++ "', error at line index: " ++ toString f.index

/-! ## Lines -/

/-- Where a text stands between quotes and backslashes. -/
inductive Quoting where
  | outside
  | blank
  | escaped
  | single
  | singleEscaped
  | double
  | doubleEscaped
  deriving DecidableEq, Repr

/-- The state behind one more character; nothing where a comment begins. -/
def Quoting.next? (c : Char) : Quoting → Option Quoting
  | blank => if c = '#' then none else some (bare c)
  | outside => some (if Text.isBlank c ∧ c ≠ '\n' ∧ c ≠ '\r' then blank else bare c)
  | escaped => some outside
  | single => some (if c = '\\' then singleEscaped else if c = '\'' then outside else single)
  | singleEscaped => some single
  | double => some (if c = '\\' then doubleEscaped else if c = '"' then outside else double)
  | doubleEscaped => some double
where
  bare (c : Char) : Quoting :=
    if c = '\\' then escaped else if c = '"' then double else if c = '\'' then single else outside

/-- Reads on to the end of a text, or to the comment in it. -/
def Quoting.scan : Quoting → List Char → List Char × Option Quoting
  | q, [] => ([], some q)
  | q, c :: cs =>
    match q.next? c with
    | none => ([], none)
    | some q => let (kept, final) := q.scan cs; (c :: kept, final)

/-- The lines of a text, each with its line feed. -/
def physicalLines : List Char → List (List Char)
  | [] => []
  | c :: cs =>
    if c = '\n' then [c] :: physicalLines cs
    else match physicalLines cs with
      | [] => [[c]]
      | l :: ls => (c :: l) :: ls

def dropLineEnd (cs : List Char) : List Char :=
  match cs.reverse with
  | '\n' :: '\r' :: rest | '\n' :: rest => rest.reverse
  | _ => cs

/-- Lines joined where quotes or backslashes carry them on, without comments. A text that
ends within one of them is left over as a fault. -/
def logicalLines (before : List Char) (q : Quoting) :
    List (List Char) → List (List Char) × Option Fault
  | [] =>
    if q = .outside then ([], none)
    else ([], some ⟨String.ofList before, (String.ofList before).utf8ByteSize⟩)
  | l :: ls =>
    let whole := before ++ l
    if (whole.dropWhile Text.isBlank).head? = some '#' then logicalLines [] .outside ls
    else match q.scan l with
      | (kept, none) => emit (before ++ kept) (logicalLines [] .outside ls)
      | (_, some .outside) => emit (dropLineEnd whole) (logicalLines [] .outside ls)
      | (_, some q) => logicalLines whole q ls
where
  emit (l : List Char) (rest : List (List Char) × Option Fault) : List (List Char) × Option Fault :=
    (l :: rest.1, rest.2)

/-! ## Values -/

/-- The value that a name stands for. -/
abbrev Meanings := String → String

/-- What the characters of a value are read as. -/
inductive Reading where
  | plain
  /-- Behind an unquoted blank; only a comment may follow. -/
  | ended
  | single
  /-- Behind a dollar sign: the name so far. -/
  | name (sofar : List Char)
  /-- The same within braces. -/
  | braced (sofar : List Char)
  deriving DecidableEq, Repr

structure Value where
  reading : Reading := .plain
  escaped : Bool := false
  inDouble : Bool := false
  /-- The value so far, in reverse. -/
  out : List Char := []

namespace Value

def push (v : Value) (c : Char) : Value := { v with out := c :: v.out }

def pushText (v : Value) (s : String) : Value := { v with out := s.toList.reverse ++ v.out }

/-- A character behind a backslash. -/
def pushEscaped? (v : Value) (c : Char) : Option Value :=
  let v := { v with escaped := false }
  if c ∈ ['\\', '\'', '"', '$', ' '] then some (v.push c)
  else if c = 'n' then some (v.push '\n')
  else none

/-- A character that nothing before it gives a meaning to. -/
def pushBare (v : Value) (c : Char) : Value :=
  if c = '$' then { v with reading := .name [] }
  else if c = '\\' then { v with escaped := true }
  else if v.inDouble then if c = '"' then { v with inDouble := false } else v.push c
  else if c = '\'' then { v with reading := .single }
  else if c = '"' then { v with inDouble := true }
  else if c = ' ' ∨ c = '\t' then { v with reading := .ended }
  else v.push c

/-- The value with the meaning of the name that has been read. -/
def substitute (v : Value) (meanings : Meanings) (name : List Char) : Value :=
  { v with reading := .plain }.pushText (meanings (String.ofList name.reverse))

/-- The character behind a name. -/
def endName (v : Value) (meanings : Meanings) (name : List Char) (c : Char) : Value :=
  if c = '\x7b' ∧ name = [] then { v with reading := .braced [] }
  else
    let v := v.substitute meanings name
    if c = '$' then { v with reading := .name [] } else v.push c

/-- One more character; nothing where it cannot follow. -/
def next? (v : Value) (meanings : Meanings) (c : Char) : Option Value :=
  match v.reading with
  | .ended => if c = ' ' ∨ c = '\t' then some v else none
  | .single => if c = '\'' then some { v with reading := .plain } else some (v.push c)
  | .name sofar =>
    if Text.isAlphanumeric c then some { v with reading := .name (c :: sofar) }
    else some (v.endName meanings sofar c)
  | .braced sofar =>
    if c = '\x7d' then some (v.substitute meanings sofar)
    else some { v with reading := .braced (c :: sofar) }
  | .plain => if v.escaped then v.pushEscaped? c else some (v.pushBare c)

/-- The whole value, unless quotes or braces are still open. -/
def finish? (v : Value) (meanings : Meanings) : Option String :=
  match v.reading with
  | .single | .braced _ => none
  | .name sofar => if v.inDouble then none else some (text (v.substitute meanings sofar))
  | .plain | .ended => if v.inDouble then none else some (text v)
where
  text (v : Value) : String := String.ofList v.out.reverse

end Value

/-- Reads a value from its characters; a fault is told with the whole of it. -/
def readValue (meanings : Meanings) (input : String) (v : Value) (index : Nat) :
    List Char → Except Fault String
  | [] =>
    match v.finish? meanings with
    | some s => .ok s
    | none => .error ⟨input, input.utf8ByteSize - 1⟩
  | c :: cs =>
    if v.reading = .ended ∧ c = '#' then readValue meanings input v index []
    else match v.next? meanings c with
      | some v => readValue meanings input v (index + 1) cs
      | none => .error ⟨input, index⟩

/-! ## Assignments -/

def isNameStart (c : Char) : Bool := c.isAlpha || c == '_'

def isNamePart (c : Char) : Bool := c.isAlphanum || c == '_' || c == '.'

def dropBlanks (cs : List Char) : List Char := cs.dropWhile Text.isBlank

/-- A name, blanks, an equals sign and blanks; what follows is the value. Behind the word
`export` an assignment may start anew. The rest at which reading failed comes back. -/
def readName (cs : List Char) : Except (List Char) (String × List Char) :=
  match takeName cs with
  | none => .error cs
  | some (name, rest) =>
    match rest with
    | '=' :: value => .ok (name, dropBlanks value)
    | _ =>
      if name ≠ "export" then .error rest
      else match takeName rest with
        | none => .error rest
        | some (name, '=' :: value) => .ok (name, dropBlanks value)
        | some (_, rest) => .error rest
where
  takeName (cs : List Char) : Option (String × List Char) :=
    if cs.head?.any isNameStart then
      some (String.ofList (cs.takeWhile isNamePart), dropBlanks (cs.dropWhile isNamePart))
    else none

/-- Bytes of a text in front of a rest of it. -/
def offset (cs rest : List Char) : Nat :=
  (String.ofList (cs.take (cs.length - rest.length))).utf8ByteSize

/-- An assignment, or nothing on a line without one. -/
def readLine (meanings : Meanings) (line : List Char) : Except Fault (Option (String × String)) :=
  let trimmed := (line.reverse.dropWhile Text.isBlank).reverse
  let start := dropBlanks trimmed
  if start = [] ∨ start.head? = some '#' then .ok none
  else match readName start with
    | .error rest => .error ⟨String.ofList line, offset trimmed rest⟩
    | .ok (name, value) =>
      if value = [] ∨ value.head? = some '#' then .ok (some (name, ""))
      else (readValue meanings (String.ofList value) {} 0 value).map fun s => some (name, s)

/-- Variables by name. -/
abbrev Variables := List (String × String)

/-- What a name stands for: the environment counts before the lines read so far. -/
def meaningOf (environment sofar : Variables) : Meanings := fun name =>
  ((environment.lookup name).or (sofar.lookup name)).getD ""

/-- The environment with the variables of lines added, up to the first fault. The lines
read so far are told apart from what the environment has made of them. -/
def addLines (environment sofar : Variables) :
    List (List Char) → Variables × Option Fault
  | [] => (environment, none)
  | l :: ls =>
    match readLine (meaningOf environment sofar) l with
    | .error fault => (environment, some fault)
    | .ok none => addLines environment sofar ls
    | .ok (some (name, value)) =>
      let environment :=
        if (environment.lookup name).isSome then environment else environment ++ [(name, value)]
      addLines environment ((name, value) :: sofar) ls

/-- The environment with the variables of a text added, and the fault at which reading
stopped, if it did. -/
def extend (environment : Variables) (text : String) : Variables × Option Fault :=
  let cs := text.toList
  let cs := if cs.head? = some '\uFEFF' then cs.drop 1 else cs
  let (lines, unfinished) := logicalLines [] .outside (physicalLines cs)
  let (environment, fault) := addLines environment [] lines
  (environment, fault.or unfinished)

end SecretLayers.Cli.DotEnv
