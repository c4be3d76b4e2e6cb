import SecretLayers.Number.Decimal
/-!
Places in a YAML text.

A cursor holds what is left of the text and how far into it, and into its line, that is.
Line breaks are a line feed, a carriage return, the two together, a next-line character
and the two Unicode separators; the separators keep their form, the others become a line
feed.
-/
namespace SecretLayers.Yaml

def isBreak (c : Char) : Bool :=
  c == '\n' || c == '\r' || c == '\u0085' || c == '\u2028' || c == '\u2029'

/-- A space or a tab. -/
def isGap (c : Char) : Bool := c == ' ' || c == '\t'

/-- Letters of names: ASCII letters, digits, the hyphen and the underscore. -/
def isWord (c : Char) : Bool :=
  c.isAlphanum || c == '_' || c == '-'

/-- Characters that a text may hold at all. -/
def isAllowed (c : Char) : Bool :=
  let n := c.toNat
  n == 0x09 || n == 0x0A || n == 0x0D || (0x20 ≤ n && n ≤ 0x7E) || n == 0x85 ||
    (0xA0 ≤ n && n ≤ 0xFFFD) || 0x10000 ≤ n

/-- The end of a text, or a character that `p` holds for. -/
def endOr (p : Char → Bool) : List Char → Bool
  | [] => true
  | c :: _ => p c

/-- A gap, a line break or the end. -/
def endsWord : List Char → Bool := endOr fun c => isGap c || isBreak c

/-- A line break or the end. -/
def endsLine : List Char → Bool := endOr isBreak

structure Cursor where
  rest : List Char
  position : Nat := 0
  line : Nat := 0
  column : Nat := 0

namespace Cursor

/-- Passes characters that are no line breaks. -/
def skip (c : Cursor) (n : Nat := 1) : Cursor :=
  { c with rest := c.rest.drop n, position := c.position + n, column := c.column + n }

/-- The characters from here on that `p` holds for, none of them a line break. -/
def span (p : Char → Bool) (c : Cursor) : List Char × Cursor :=
  let cs := c.rest.takeWhile fun d => p d && !isBreak d
  (cs, c.skip cs.length)

/-- The line break here, as it is kept, and the start of the next line. -/
def readBreak (c : Cursor) : List Char × Cursor :=
  let next (rest : List Char) (width : Nat) : Cursor :=
    { rest, position := c.position + width, line := c.line + 1, column := 0 }
  match c.rest with
  | '\r' :: '\n' :: rest => (['\n'], next rest 2)
  | d :: rest =>
    if d == '\u2028' || d == '\u2029' then ([d], next rest 1)
    else if isBreak d then (['\n'], next rest 1)
    else ([], c)
  | [] => ([], c)

def atBreak (c : Cursor) : Bool :=
  match c.rest with
  | [] => false
  | d :: _ => isBreak d

/-- Passes what is left of the line. -/
def skipLine (c : Cursor) : Cursor := (c.span fun _ => true).2

/-- Whether a line starts here with a mark between documents. -/
def atDocumentMark (c : Cursor) : Bool :=
  c.column == 0 &&
    match c.rest with
    | '-' :: '-' :: '-' :: rest => endsWord rest
    | '.' :: '.' :: '.' :: rest => endsWord rest
    | _ => false

end Cursor
end SecretLayers.Yaml
