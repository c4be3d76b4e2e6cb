import SecretLayers.Yaml.Cursor
/-!
Texts of scalars: quoted, plain, and in blocks of lines.

Within quotes and in plain text a single line break is read as a space, and of several
the first is dropped. A folded block does the same between lines that do not start with a
gap; a literal block keeps its lines.
-/
namespace SecretLayers.Yaml

/-! ## Joining lines -/

/-- What stands between two pieces of a text: gaps on one line, or line breaks. -/
structure Joint where
  /-- A line break was passed. -/
  broken : Bool := false
  gaps : List Char := []
  first : List Char := []
  others : List Char := []

namespace Joint

/-- The characters that a joint is read as. -/
def chars (j : Joint) : List Char :=
  if j.broken then
    if j.first = ['\n'] then (if j.others.isEmpty then [' '] else j.others)
    else j.first ++ j.others
  else j.gaps

def addBreak (j : Joint) (b : List Char) : Joint :=
  if j.broken then { j with others := j.others ++ b }
  else { j with broken := true, gaps := [], first := b }

end Joint

/-- Passes gaps and line breaks. A tab that stands before the column `least` of a
continued line is refused. -/
def readJoint? (least : Nat) : Nat → Joint → Cursor → Option (Joint × Cursor)
  | 0, _, _ => none
  | fuel + 1, j, c =>
    match c.rest with
    | [] => some (j, c)
    | d :: _ =>
      if isGap d then
        if j.broken && c.column < least && d == '\t' then none
        else readJoint? least fuel (if j.broken then j else { j with gaps := j.gaps ++ [d] }) c.skip
      else if isBreak d then
        let (b, c) := c.readBreak
        readJoint? least fuel (j.addBreak b) c
      else some (j, c)

/-! ## Quoted texts -/

/-- The characters that letters after a backslash stand for. -/
def escapes : List (Char × Char) :=
  [('0', '\x00'), ('a', '\x07'), ('b', '\x08'), ('t', '\t'), ('\t', '\t'), ('n', '\n'),
    ('v', '\x0b'), ('f', '\x0c'), ('r', '\r'), ('e', '\x1b'), (' ', ' '), ('"', '"'),
    ('/', '/'), ('\\', '\\'), ('N', '\u0085'), ('_', '\u00a0'), ('L', '\u2028'),
    ('P', '\u2029')]

/-- How many hexadecimal digits follow a letter after a backslash. -/
def escapeWidths : List (Char × Nat) := [('x', 2), ('u', 4), ('U', 8)]

/-- A character given by its code point in so many hexadecimal digits. -/
def readCode? (width : Nat) (c : Cursor) : Option (Char × Cursor) := do
  let ds := c.rest.take width
  if ds.length ≠ width then none
  let n ← (readDigits 16 (Nat.pow 2 32) 0 ds).toOption
  if n.isValidChar then some (Char.ofNat n, c.skip width) else none

/-- The character after a backslash. -/
def readEscape? (c : Cursor) : Option (Char × Cursor) := do
  let d ← c.rest.head?
  match escapes.lookup d with
  | some e => some (e, c.skip)
  | none => readCode? (← escapeWidths.lookup d) c.skip

/-- The rest of a quoted text after its opening quote; the characters read so far stand
in reverse. -/
def readQuoted? (quote : Char) : Nat → List Char → Cursor → Option (String × Cursor)
  | 0, _, _ => none
  | fuel + 1, acc, c =>
    if c.atDocumentMark then none
    else
      match c.rest with
      | [] => none
      | d :: rest =>
        if isGap d || isBreak d then do
          let (j, c) ← readJoint? 0 (c.rest.length + 1) {} c
          readQuoted? quote fuel (j.chars.reverse ++ acc) c
        else if d == quote then
          if quote == '\'' && rest.head? == some '\'' then readQuoted? quote fuel ('\'' :: acc) (c.skip 2)
          else some (String.ofList acc.reverse, c.skip)
        else if quote == '"' && d == '\\' then
          if c.skip.atBreak then do
            let (j, c) ← readJoint? 0 (c.rest.length + 1) { broken := true } c.skip.readBreak.2
            readQuoted? quote fuel (j.chars.reverse ++ acc) c
          else do
            let (e, c) ← readEscape? c.skip
            readQuoted? quote fuel (e :: acc) c
        else readQuoted? quote fuel (d :: acc) c.skip

/-! ## Plain texts -/

/-- Ends a plain text inside brackets. -/
def isFlowMark (c : Char) : Bool :=
  c == ',' || c == '[' || c == ']' || c == '\x7b' || c == '\x7d'

/-- Whether a plain text ends at this colon or bracket. -/
def endsPlain (inFlow : Bool) : List Char → Bool
  | [] => true
  | d :: rest => (d == ':' && endsWord rest) || (inFlow && isFlowMark d)

/-- Inside brackets a colon may not stand before a bracket, a comma or a question mark. -/
def clashesInFlow (inFlow : Bool) : List Char → Bool
  | ':' :: d :: _ => inFlow && (isFlowMark d || d == '?')
  | _ => false

/-- A plain text: the words so far in reverse, and the joint after them. The result says
whether the text was followed by a line break. -/
def readPlain? (inFlow : Bool) (least : Nat) :
    Nat → List Char → Joint → Cursor → Option (String × Bool × Cursor)
  | 0, _, _, _ => none
  | fuel + 1, acc, j, c =>
    let done := some (String.ofList acc.reverse, j.broken, c)
    match c.rest with
    | [] => done
    | d :: _ =>
      if isGap d || isBreak d then do
        let (j, c) ← readJoint? least (c.rest.length + 1) {} c
        if !inFlow && c.column < least then some (String.ofList acc.reverse, j.broken, c)
        else if c.atDocumentMark || c.rest.head? == some '#' then
          some (String.ofList acc.reverse, j.broken, c)
        else readPlain? inFlow least fuel acc j c
      else if clashesInFlow inFlow c.rest then none
      else if endsPlain inFlow c.rest then done
      else readPlain? inFlow least fuel (d :: (j.chars.reverse ++ acc)) {} c.skip

/-! ## Blocks of lines -/

/-- What happens to the line breaks at the end of a block. -/
inductive Chomp where
  | strip
  | clip
  | keep
  deriving DecidableEq

def chomp? (d : Char) : Option Chomp :=
  if d == '+' then some .keep else if d == '-' then some .strip else none

def indentDigit? (d : Char) : Option Nat :=
  if d.isDigit && d != '0' then some (d.toNat - 48) else none

/-- The marks after the sign of a block, in either order: how its end is chomped, and how
far it is indented. -/
def readBlockHeader? (c : Cursor) : Option (Chomp × Option Nat × Cursor) :=
  match c.rest with
  | d :: rest =>
    match chomp? d with
    | some chomp =>
      match rest with
      | e :: _ => if e.isDigit then (indentDigit? e).map fun n => (chomp, some n, c.skip 2)
        else some (chomp, none, c.skip)
      | [] => some (chomp, none, c.skip)
    | none =>
      if d.isDigit then (indentDigit? d).map fun n =>
        match rest.head?.bind chomp? with
        | some chomp => (chomp, some n, c.skip 2)
        | none => (.clip, some n, c.skip)
      else some (.clip, none, c)
  | [] => some (.clip, none, c)

/-- Passes empty lines and the indentation of the next line. While the indentation is not
known, spaces are passed as far as they go, and the farthest column is reported. -/
def readEmptyLines? (indent : Option Nat) :
    Nat → Nat → List Char → Cursor → Option (Nat × List Char × Cursor)
  | 0, _, _, _ => none
  | fuel + 1, farthest, breaks, c =>
    let spaces := (c.rest.takeWhile (· == ' ')).length
    let c := c.skip (match indent with
      | some n => min spaces (n - c.column)
      | none => spaces)
    let farthest := max farthest c.column
    if c.rest.head? == some '\t' && indent.all (c.column < ·) then none
    else if c.atBreak then
      let (b, c) := c.readBreak
      readEmptyLines? indent fuel farthest (breaks ++ b) c
    else some (farthest, breaks, c)

/-- The lines of a block. `leading` is the break after the line before, `trailing` are the
empty lines since, and `gap` tells whether the line before started with a gap. -/
def readBlockLines? (folded : Bool) (indent : Nat) (chomp : Chomp) :
    Nat → List Char → List Char → List Char → Bool → Cursor → Option (String × Cursor)
  | 0, _, _, _, _, _ => none
  | fuel + 1, acc, leading, trailing, gap, c =>
    match c.rest with
    | d :: _ =>
      if c.column = indent then
        let join :=
          if folded && leading == ['\n'] && !gap && !isGap d then
            (if trailing.isEmpty then [' '] else []) ++ trailing
          else leading ++ trailing
        let (cs, c) := c.span fun _ => true
        let (leading, c) := c.readBreak
        match readEmptyLines? (some indent) (c.rest.length + 1) 0 [] c with
        | none => none
        | some (_, trailing, c) =>
          readBlockLines? folded indent chomp fuel (cs.reverse ++ (join.reverse ++ acc)) leading
            trailing (isGap d) c
      else finish acc leading trailing c
    | [] => finish acc leading trailing c
where
  finish (acc leading trailing : List Char) (c : Cursor) : Option (String × Cursor) :=
    let tail := match chomp with
      | .strip => []
      | .clip => leading
      | .keep => leading ++ trailing
    some (String.ofList (acc.reverse ++ tail), c)

/-- A block after its sign. `least` is the column it has to reach. -/
def readBlock? (folded : Bool) (least : Nat) (c : Cursor) : Option (String × Cursor) := do
  let (chomp, increment, c) ← readBlockHeader? c
  let c := (c.span isGap).2
  let c := if c.rest.head? == some '#' then c.skipLine else c
  if !endsLine c.rest then none
  let c := c.readBreak.2
  let given := increment.map fun n => least - 1 + n
  let fuel := c.rest.length + 1
  let (farthest, breaks, c) ← readEmptyLines? given fuel 0 [] c
  let indent := given.getD (max farthest (max least 1))
  readBlockLines? folded indent chomp fuel [] [] breaks false c

end SecretLayers.Yaml
