import SecretLayers.Text.Blank
import SecretLayers.Yaml.Cursor
import SecretLayers.Yaml.Scalar
/-!
Writing texts as scalars of YAML.

A text is written plain where it reads back as the same text. One with line feeds becomes
a literal block; quotes are used where the plain form would be read as something else,
and escapes only where a character could not stand in the text at all.
-/
namespace SecretLayers.Yaml

/-! ## What a text allows -/

/-- Characters that are written as they are. -/
def isShown (c : Char) : Bool :=
  let n := c.toNat
  n == 0x0A || (0x20 ≤ n && n ≤ 0x7E) || (0xA0 ≤ n && n ≤ 0xFFFD && n ≠ 0xFEFF) || 0x10000 ≤ n

/-- Whether a text would be read as something other than itself. -/
def readsOtherwise (s : String) : Bool :=
  let lower := Text.lowerAscii s
  meaning s != .text || hasLeadingZero s.toList || isNull lower || (flag? lower).isSome

/-- Indicators that a plain text does not start with. -/
def startMarks : List Char := "#,[]\x7b\x7d&*!|>'\"%@`".toList

/-- Whether an indicator stands at the start of a text. -/
def startsMarked : List Char → Bool
  | '-' :: '-' :: '-' :: _ | '.' :: '.' :: '.' :: _ => true
  | c :: rest => startMarks.contains c || ((c == '?' || c == ':' || c == '-') && endsWord rest)
  | [] => false

/-- Whether an indicator stands behind the start: a colon before a gap or the end, or a
number sign after one. -/
def holdsMark : List Char → Bool
  | c :: d :: rest =>
    (d == ':' && endsWord rest) || (d == '#' && (isGap c || isBreak c)) || holdsMark (d :: rest)
  | _ => false

/-- Whether a character satisfying `p` is followed by one satisfying `q`. -/
def hasPair (p q : Char → Bool) : List Char → Bool
  | c :: d :: rest => (p c && q d) || hasPair p q (d :: rest)
  | _ => false

def isSpace (c : Char) : Bool := c == ' '

/-- Every character can stand in the text, and no line ends with a space. -/
def allowsBlock (cs : List Char) : Bool :=
  !cs.isEmpty && cs.all isShown && !hasPair isSpace isBreak cs && cs.getLast? != some ' '

def allowsQuotes (cs : List Char) : Bool :=
  cs.all isShown && !hasPair isSpace isBreak cs && !hasPair isBreak isSpace cs

def allowsPlain (cs : List Char) : Bool :=
  !cs.isEmpty && cs.all isShown && !cs.any isBreak && cs.head? != some ' ' &&
    cs.getLast? != some ' ' && !startsMarked cs && !holdsMark cs

/-! ## Forms -/

/-- A text in single quotes, whose further lines are indented. -/
def singleQuoted (margin : String) (s : String) : String :=
  let rec body : Bool → List Char → List Char
    | broken, [] => if broken then margin.toList else []
    | broken, c :: cs =>
      if isBreak c then c :: body true cs
      else (if broken then margin.toList else []) ++
        (if c == '\'' then ['\'', '\''] else [c]) ++ body false cs
  String.ofList ('\'' :: body false s.toList ++ ['\''])

/-- Letters for characters after a backslash. -/
def escapeLetters : List (Char × Char) :=
  [('\x00', '0'), ('\x07', 'a'), ('\x08', 'b'), ('\t', 't'), ('\n', 'n'), ('\x0b', 'v'),
    ('\x0c', 'f'), ('\r', 'r'), ('\x1b', 'e'), ('"', '"'), ('\\', '\\'), ('\u0085', 'N'),
    ('\u00a0', '_'), ('\u2028', 'L'), ('\u2029', 'P')]

def escapeCode (c : Char) : List Char :=
  let (mark, width) : Char × Nat :=
    if c.toNat ≤ 0xFF then ('x', 2) else if c.toNat ≤ 0xFFFF then ('u', 4) else ('U', 8)
  let ds := (Nat.toDigits 16 c.toNat).map Char.toUpper
  '\\' :: mark :: List.replicate (width - ds.length) '0' ++ ds

def doubleQuoted (s : String) : String :=
  let escape (c : Char) : List Char :=
    if isShown c && !isBreak c && c != '"' && c != '\\' then [c]
    else match escapeLetters.lookup c with
      | some letter => ['\\', letter]
      | none => escapeCode c
  String.ofList ('"' :: s.toList.flatMap escape ++ ['"'])

/-- The mark after the sign of a block: how its end is to be read. -/
def chompMark (cs : List Char) : String :=
  match cs.reverse with
  | [] => "-"
  | [c] => if isBreak c then "+" else "-"
  | c :: d :: _ => if !isBreak c then "-" else if isBreak d then "+" else ""

/-- The lines of a literal block, each with its break. -/
def blockLines (margin : List Char) : Bool → List Char → List Char
  | fresh, [] => if fresh then [] else ['\n']
  | fresh, c :: cs =>
    if isBreak c then c :: blockLines margin true cs
    else (if fresh then margin else []) ++ c :: blockLines margin false cs

/-- A literal block, indented by two blanks a level. -/
def literalBlock (margin : String) (s : String) : String :=
  let cs := s.toList
  let hint := if cs.head?.any fun c => isSpace c || isBreak c then "2" else ""
  "|" ++ hint ++ chompMark cs ++ "\n" ++ String.ofList (blockLines margin.toList true cs)

/-- Whether a text is written as a block. -/
def isBlock (s : String) : Bool := s.toList.contains '\n' && allowsBlock s.toList

/-- A text and the end of its line; `margin` is where further lines of it start. -/
def textLine (margin : String) (s : String) : String :=
  let cs := s.toList
  if isBlock s then literalBlock margin s
  else if cs.contains '\n' then doubleQuoted s ++ "\n"
  else if !readsOtherwise s && allowsPlain cs then s ++ "\n"
  else if allowsQuotes cs then singleQuoted margin s ++ "\n"
  else doubleQuoted s ++ "\n"

/-- The mark that ends a document whose last text ends with empty lines. -/
def closingMark (last : String) : String :=
  if isBlock last && chompMark last.toList == "+" then "...\n" else ""

end SecretLayers.Yaml
