import SecretLayers.Yaml.Text
/-!
The tokens of a YAML text.

Blocks are told by indentation: a token that starts a block is put where a deeper column
is first used, and one that ends it where the text returns to the left. A key without a
mark of its own is recognised by the colon behind it, so the place where such a key may
have begun is remembered, and its token is put there afterwards.
-/
namespace SecretLayers.Yaml

/-- How a scalar is written, as far as that matters to what it denotes. -/
inductive Style where
  /-- As it stands; it may denote something other than its text. -/
  | plain
  /-- A block that keeps its lines. -/
  | literal
  /-- In quotes, or a folded block. -/
  | guarded
  deriving DecidableEq, Repr

inductive Token where
  | version (major minor : Nat)
  | tagHandle (handle expansion : String)
  | documentStart
  | documentEnd
  | blockSequence
  | blockMapping
  | blockEnd
  | flowSequence
  | flowSequenceEnd
  | flowMapping
  | flowMappingEnd
  | blockEntry
  | flowEntry
  | key
  | value
  | alias (name : String)
  | anchor (name : String)
  | tag (handle suffix : String)
  | scalar (text : String) (style : Style)
  deriving DecidableEq, Repr

/-- A place where a key may have begun: the token to be, and the column. A required one
stands where its block needs a key. -/
structure KeyPlace where
  required : Bool
  index : Nat
  position : Nat
  line : Nat
  column : Nat

structure Scanner where
  cursor : Cursor
  tokens : Array Token := #[]
  /-- Column of the block we are in, -1 outside of all. -/
  indent : Int := -1
  outerIndents : List Int := []
  keyPlace : Option KeyPlace := none
  /-- Key places of the enclosing brackets, one for each open bracket. -/
  outerKeyPlaces : List (Option KeyPlace) := []
  keyAllowed : Bool := true

namespace Scanner

def inFlow (s : Scanner) : Bool := !s.outerKeyPlaces.isEmpty

def column (s : Scanner) : Nat := s.cursor.column

def push (s : Scanner) (t : Token) : Scanner := { s with tokens := s.tokens.push t }

/-- Passes characters of the line and adds their token. -/
def pushOver (s : Scanner) (n : Nat) (t : Token) : Scanner :=
  { s with cursor := s.cursor.skip n, tokens := s.tokens.push t }

/-- Puts a token in front of the one of an index. -/
def insertAt (s : Scanner) (index : Nat) (t : Token) : Scanner :=
  { s with tokens := s.tokens.insertIdxIfInBounds index t }

/-! ## Indentation -/

/-- Ends the blocks to the right of a column. -/
def closeBlocks (column : Int) : Int → List Int → Array Token → Int × List Int × Array Token
  | indent, [], tokens => (indent, [], tokens)
  | indent, outer :: rest, tokens =>
    if column < indent then closeBlocks column outer rest (tokens.push .blockEnd)
    else (indent, outer :: rest, tokens)

def returnTo (s : Scanner) (column : Int) : Scanner :=
  if s.inFlow then s
  else
    let (indent, outerIndents, tokens) := closeBlocks column s.indent s.outerIndents s.tokens
    { s with indent, outerIndents, tokens }

/-- Starts a block, in front of the token of an index, if the column is deeper. -/
def openBlock (s : Scanner) (column index : Nat) (t : Token) : Scanner :=
  if s.inFlow || (column : Int) ≤ s.indent then s
  else { s.insertAt index t with indent := column, outerIndents := s.indent :: s.outerIndents }

/-! ## Keys without a mark -/

/-- Forgets the key place; a required one is missed. -/
def dropKeyPlace? (s : Scanner) : Option Scanner :=
  match s.keyPlace with
  | some k => if k.required then none else some { s with keyPlace := none }
  | none => some s

/-- Remembers that a key may begin here, where one is allowed. -/
def markKeyPlace? (s : Scanner) : Option Scanner :=
  if s.keyAllowed then do
    let s ← s.dropKeyPlace?
    some { s with
      keyPlace := some
        { required := !s.inFlow && s.indent == s.column
          index := s.tokens.size
          position := s.cursor.position
          line := s.cursor.line
          column := s.column } }
  else some s

/-- A key ends on its line and within 1024 characters. -/
def KeyPlace.isStale (c : Cursor) (k : KeyPlace) : Bool :=
  k.line < c.line || k.position + 1024 < c.position

def freshen? (c : Cursor) : Option KeyPlace → Option (Option KeyPlace)
  | none => some none
  | some k => if KeyPlace.isStale c k then (if k.required then none else some none) else some (some k)

def dropStale? (s : Scanner) : Option Scanner := do
  let keyPlace ← freshen? s.cursor s.keyPlace
  let outerKeyPlaces ← s.outerKeyPlaces.mapM (freshen? s.cursor)
  some { s with keyPlace, outerKeyPlaces }

/-! ## Between tokens -/

/-- Passes blanks, comments and line breaks. Tabs do not count as indentation; a byte order
mark may start a line. -/
def skipBlanks (fuel : Nat) (s : Scanner) : Scanner :=
  match fuel with
  | 0 => s
  | fuel + 1 =>
    let tabs := s.inFlow || !s.keyAllowed
    let c := s.cursor
    let c := if c.column == 0 && c.rest.head? == some '\uFEFF' then c.skip else c
    let c := (c.span fun d => d == ' ' || (tabs && d == '\t')).2
    let c := if c.rest.head? == some '#' then c.skipLine else c
    if c.atBreak then
      skipBlanks fuel { s with cursor := c.readBreak.2, keyAllowed := !s.inFlow || s.keyAllowed }
    else { s with cursor := c }

/-! ## Directives -/

def readNumber? (c : Cursor) : Option (Nat × Cursor) :=
  let (ds, c) := c.span Char.isDigit
  if ds.isEmpty || 9 < ds.length then none else some (digitsValue ds, c)

/-- Characters of a tag, escapes apart; in angle brackets some more are allowed. -/
def isTagChar (bracketed : Bool) (c : Char) : Bool :=
  isWord c || ";/?:@&=+$.!~*'()".toList.contains c || (bracketed && ",[]".toList.contains c)

/-- The bytes of escapes by percent signs from here on. -/
def readEscapedBytes? : Nat → Cursor → Option (List UInt8 × Cursor)
  | 0, _ => none
  | fuel + 1, c =>
    match c.rest with
    | '%' :: a :: b :: _ => do
      let x ← digitValue? 16 a
      let y ← digitValue? 16 b
      let (bytes, c) ← readEscapedBytes? fuel (c.skip 3)
      some (UInt8.ofNat (16 * x + y) :: bytes, c)
    | '%' :: _ => none
    | _ => some ([], c)

/-- The rest of a tag; escapes stand for the bytes of characters. -/
def readTagText? (bracketed : Bool) : Nat → Cursor → Option (List Char × Cursor)
  | 0, _ => none
  | fuel + 1, c =>
    let (cs, c) := c.span (isTagChar bracketed)
    if c.rest.head? == some '%' then do
      let (bytes, c) ← readEscapedBytes? (c.rest.length + 1) c
      let decoded ← String.fromUTF8? ⟨bytes.toArray⟩
      let (rest, c) ← readTagText? bracketed fuel c
      some (cs ++ decoded.toList ++ rest, c)
    else some (cs, c)

/-- A handle: a word between exclamation marks, of which the second may be missing. -/
def readHandle? (c : Cursor) : Option (List Char × Cursor) :=
  match c.rest with
  | '!' :: _ =>
    let (word, c) := c.skip.span isWord
    if c.rest.head? == some '!' then some ('!' :: word ++ ['!'], c.skip) else some ('!' :: word, c)
  | _ => none

def skipGaps (c : Cursor) : Cursor := (c.span isGap).2

def readVersion? (c : Cursor) : Option (Token × Cursor) := do
  let (major, c) ← readNumber? (skipGaps c)
  if c.rest.head? ≠ some '.' then none
  let (minor, c) ← readNumber? c.skip
  some (.version major minor, c)

def readTagHandle? (c : Cursor) : Option (Token × Cursor) := do
  let (handle, c) ← readHandle? (skipGaps c)
  if handle ≠ ['!'] ∧ handle.getLast? ≠ some '!' then none
  if !(endOr isGap c.rest) ∨ c.rest.isEmpty then none
  let c := skipGaps c
  let (expansion, c) ← readTagText? true (c.rest.length + 1) c
  if expansion.isEmpty ∨ !endsWord c.rest then none
  some (.tagHandle (String.ofList handle) (String.ofList expansion), c)

def readDirective? (c : Cursor) : Option (Token × Cursor) := do
  let (name, c) := c.skip.span isWord
  if name.isEmpty ∨ !endsWord c.rest then none
  let (t, c) ←
    if name = "YAML".toList then readVersion? c
    else if name = "TAG".toList then readTagHandle? c
    else none
  let c := skipGaps c
  let c := if c.rest.head? == some '#' then c.skipLine else c
  if endsLine c.rest then some (t, c.readBreak.2) else none

/-! ## Anchors and tags -/

/-- The name of an anchor or an alias, after its sign. -/
def readName? (c : Cursor) : Option (String × Cursor) :=
  let (name, c) := c.skip.span isWord
  let ended := endOr (fun d => isGap d || isBreak d || "?:,]\x7d%@\x60".toList.contains d) c.rest
  if name.isEmpty || !ended then none else some (String.ofList name, c)

/-- A tag: in angle brackets as it stands, or a handle and what follows it. -/
def readTag? (c : Cursor) : Option (Token × Cursor) :=
  let fuel := c.rest.length + 1
  match c.rest with
  | '!' :: '<' :: _ => do
    let (suffix, c) ← readTagText? true fuel (c.skip 2)
    if suffix.isEmpty ∨ c.rest.head? ≠ some '>' then none
    some (.tag "" (String.ofList suffix), c.skip)
  | _ => do
    let (handle, c) ← readHandle? c
    let (more, c) ← readTagText? false fuel c
    if 1 < handle.length ∧ handle.getLast? = some '!' then
      if more.isEmpty then none else some (.tag (String.ofList handle) (String.ofList more), c)
    else
      let suffix := handle.drop 1 ++ more
      if suffix.isEmpty then some (.tag "" "!", c) else some (.tag "!" (String.ofList suffix), c)

/-! ## Tokens -/

/-- Adds the token read by `read` from here; no key can begin right after it. -/
def addRead? (read : Cursor → Option (Token × Cursor)) (s : Scanner) : Option Scanner := do
  let s ← s.markKeyPlace?
  let (t, cursor) ← read s.cursor
  some { s with cursor, tokens := s.tokens.push t, keyAllowed := false }

def addDocumentMark? (t : Token) (s : Scanner) : Option Scanner := do
  let s ← (s.returnTo (-1)).dropKeyPlace?
  some { s.pushOver 3 t with keyAllowed := false }

def addDirective? (s : Scanner) : Option Scanner := do
  let s ← (s.returnTo (-1)).dropKeyPlace?
  let (t, cursor) ← readDirective? s.cursor
  some { s with cursor, tokens := s.tokens.push t, keyAllowed := false }

def addFlowStart? (t : Token) (s : Scanner) : Option Scanner := do
  let s ← s.markKeyPlace?
  some { s.pushOver 1 t with
    keyPlace := none, outerKeyPlaces := s.keyPlace :: s.outerKeyPlaces, keyAllowed := true }

def addFlowEnd? (t : Token) (s : Scanner) : Option Scanner := do
  let s ← s.dropKeyPlace?
  let s := { s.pushOver 1 t with keyAllowed := false }
  match s.outerKeyPlaces with
  | [] => some s
  | k :: ks => some { s with keyPlace := k, outerKeyPlaces := ks }

def addFlowItem? (s : Scanner) : Option Scanner := do
  let s ← s.dropKeyPlace?
  some { s.pushOver 1 .flowEntry with keyAllowed := true }

def addBlockItem? (s : Scanner) : Option Scanner := do
  if !s.inFlow ∧ !s.keyAllowed then none
  let s ← (s.openBlock s.column s.tokens.size .blockSequence).dropKeyPlace?
  some { s.pushOver 1 .blockEntry with keyAllowed := true }

def addKey? (s : Scanner) : Option Scanner := do
  if !s.inFlow ∧ !s.keyAllowed then none
  let s ← (s.openBlock s.column s.tokens.size .blockMapping).dropKeyPlace?
  some { s.pushOver 1 .key with keyAllowed := !s.inFlow }

def addValue? (s : Scanner) : Option Scanner :=
  match s.keyPlace with
  | some k =>
    let s := (s.insertAt k.index .key).openBlock k.column k.index .blockMapping
    some { s.pushOver 1 .value with keyPlace := none, keyAllowed := false }
  | none => do
    if !s.inFlow ∧ !s.keyAllowed then none
    let s := s.openBlock s.column s.tokens.size .blockMapping
    some { s.pushOver 1 .value with keyAllowed := !s.inFlow }

def addBlock? (folded : Bool) (s : Scanner) : Option Scanner := do
  let s ← s.dropKeyPlace?
  let (text, cursor) ← readBlock? folded (s.indent + 1).toNat s.cursor.skip
  let t := Token.scalar text (if folded then .guarded else .literal)
  some { s with cursor, tokens := s.tokens.push t, keyAllowed := true }

def addPlain? (s : Scanner) : Option Scanner := do
  let s ← s.markKeyPlace?
  let (text, broken, cursor) ←
    readPlain? s.inFlow (s.indent + 1).toNat (s.cursor.rest.length + 1) [] {} s.cursor
  some { s with cursor, tokens := s.tokens.push (.scalar text .plain), keyAllowed := broken }

def readQuotedToken? (quote : Char) (c : Cursor) : Option (Token × Cursor) :=
  (readQuoted? quote (c.rest.length + 1) [] c.skip).map fun (text, c) => (.scalar text .guarded, c)

/-- Characters with a meaning of their own at the start of a token. -/
def isIndicator (c : Char) : Bool :=
  "-?:,[]\x7b\x7d#&*!|>'\"%@`".toList.contains c

/-- Adds the token that starts with `d`, before `rest`. -/
def addToken? (s : Scanner) (d : Char) (rest : List Char) : Option Scanner :=
  if s.column == 0 && d == '%' then s.addDirective?
  else if s.cursor.atDocumentMark then
    s.addDocumentMark? (if d == '-' then .documentStart else .documentEnd)
  else if d == '[' then s.addFlowStart? .flowSequence
  else if d == '\x7b' then s.addFlowStart? .flowMapping
  else if d == ']' then s.addFlowEnd? .flowSequenceEnd
  else if d == '\x7d' then s.addFlowEnd? .flowMappingEnd
  else if d == ',' then s.addFlowItem?
  else if d == '-' && endsWord rest then s.addBlockItem?
  else if d == '?' && (s.inFlow || endsWord rest) then s.addKey?
  else if d == ':' && (s.inFlow || endsWord rest) then s.addValue?
  else if d == '*' then s.addRead? fun c => (readName? c).map fun (n, c) => (.alias n, c)
  else if d == '&' then s.addRead? fun c => (readName? c).map fun (n, c) => (.anchor n, c)
  else if d == '!' then do
    let s ← s.addRead? readTag?
    if endsWord s.cursor.rest ∨ (s.inFlow ∧ s.cursor.rest.head? = some ',') then some s else none
  else if d == '|' && !s.inFlow then s.addBlock? false
  else if d == '>' && !s.inFlow then s.addBlock? true
  else if d == '\'' || d == '"' then s.addRead? (readQuotedToken? d)
  else if (!isIndicator d && !isGap d) || (d == '-' && !endOr isGap rest) ||
      (!s.inFlow && (d == '?' || d == ':') && !endsWord rest) then s.addPlain?
  else none

/-- All tokens from here to the end of the text. -/
def run? : Nat → Scanner → Option (List Token)
  | 0, _ => none
  | fuel + 1, s => do
    let s := s.skipBlanks (s.cursor.rest.length + 1)
    let s ← s.dropStale?
    let s := s.returnTo s.column
    match s.cursor.rest with
    | [] =>
      let s ← (s.returnTo (-1)).dropKeyPlace?
      some s.tokens.toList
    | d :: rest => do
      let s ← s.addToken? d rest
      run? fuel s

end Scanner

/-- The tokens of a text; a byte order mark may stand in front. -/
def Token.scan? (text : String) : Option (List Token) :=
  let cs := text.toList
  let cs := if cs.head? == some '\uFEFF' then cs.drop 1 else cs
  if cs.all isAllowed then Scanner.run? (cs.length + 1) { cursor := { rest := cs } } else none

end SecretLayers.Yaml
