import SecretLayers.Yaml.Token
/-!
What a YAML text says: the tree of its one document.

Aliases are replaced by what they stand for. An alias inside of its own anchor stands for
nothing that could be written out; it has a node of its own.
-/
namespace SecretLayers.Yaml

inductive Node where
  /-- Plain text may denote something other than itself, text in quotes does not. -/
  | scalar (text : String) (style : Style) (tag : Option String)
  | sequence (items : List Node) (tag : Option String)
  | mapping (members : List (Node × Node)) (tag : Option String)
  /-- An alias of something around it. -/
  | endless
  deriving Repr, Inhabited

namespace Node

def absent : Node := .scalar "" .plain none

/-! ## Properties of nodes -/

/-- Expansions of tag handles that hold unless a directive overrides them. -/
def standardHandles : List (String × String) := [("!", "!"), ("!!", "tag:yaml.org,2002:")]

/-- The whole tag for a handle and a suffix. -/
def expandTag? (handles : List (String × String)) (handle suffix : String) : Option String :=
  if handle = "" then some suffix
  else ((handles ++ standardHandles).lookup handle).map (· ++ suffix)

/-- The tag that tells nothing about the scalar behind it. -/
def loneTag : String := "!"

/-- What may stand before a node: an anchor and a tag. -/
structure Marks where
  anchor : Option String := none
  tag : Option String := none

def Marks.isEmpty (m : Marks) : Bool := m.anchor.isNone && m.tag.isNone

/-- At most one anchor and one tag, in either order. -/
def readMarks? (handles : List (String × String)) (m : Marks) :
    List Token → Option (Marks × List Token)
  | .anchor name :: ts =>
    if m.anchor.isSome then some (m, .anchor name :: ts)
    else readMarks? handles { m with anchor := some name } ts
  | .tag handle suffix :: ts =>
    if m.tag.isSome then some (m, .tag handle suffix :: ts)
    else do
      let tag ← expandTag? handles handle suffix
      readMarks? handles { m with tag := some tag } ts
  | ts => some (m, ts)

/-! ## Nodes -/

/-- What names stand for, the latest first. -/
abbrev Anchors := List (String × Node)

/-- Where a node stands decides which tokens may start it. -/
inductive Place where
  /-- Inside brackets. -/
  | flow
  /-- In a block. -/
  | block
  /-- A member of a block mapping, where a list need not be indented. -/
  | member
  deriving DecidableEq

/-- Tokens that leave the entry of a block empty. -/
def endsEntry : List Token → Bool
  | .blockEntry :: _ | .blockEnd :: _ => true
  | _ => false

def endsLooseEntry : List Token → Bool
  | .blockEntry :: _ | .key :: _ | .value :: _ | .blockEnd :: _ => true
  | _ => false

def endsMember : List Token → Bool
  | .key :: _ | .value :: _ | .blockEnd :: _ => true
  | _ => false

def endsFlowKey (closing : Token) : List Token → Bool
  | .value :: _ | .flowEntry :: _ => true
  | t :: _ => t == closing
  | _ => false

def endsFlowValue (closing : Token) : List Token → Bool
  | .flowEntry :: _ => true
  | t :: _ => t == closing
  | _ => false

/-- The anchors known, and the remaining tokens. -/
abbrev Rest := Anchors × List Token

def remember (m : Marks) (v : Node) (anchors : Anchors) : Anchors :=
  match m.anchor with
  | some name => (name, v) :: anchors
  | none => anchors

/-- Gives the anchor of a node its meaning once the node has been read. It was made known
before the anchors inside of the node, so it stays behind them. -/
def settle (m : Marks) (v : Node) (before inner : Anchors) : Anchors :=
  match m.anchor with
  | some name => inner.set (inner.length - before.length - 1) (name, v)
  | none => inner

mutual

/-- A node at its place. The first argument bounds the number of calls. -/
def read? (handles : List (String × String)) :
    Nat → Place → Anchors → List Token → Option (Node × Rest)
  | 0, _, _, _ => none
  | _ + 1, _, anchors, .alias name :: ts => (anchors.lookup name).map fun v => (v, anchors, ts)
  | fuel + 1, place, anchors, ts => do
    let (m, ts) ← readMarks? handles {} ts
    let inner := remember m .endless anchors
    match ts with
    | .scalar text style :: ts =>
      let v := Node.scalar text style (m.tag.filter (· ≠ loneTag))
      some (v, remember m v anchors, ts)
    | .flowSequence :: ts =>
      let (items, inner, ts) ← readFlowItems? handles fuel true inner ts
      let v := Node.sequence items m.tag
      some (v, settle m v anchors inner, ts)
    | .flowMapping :: ts =>
      let (members, inner, ts) ← readFlowMembers? handles fuel true inner ts
      let v := Node.mapping members m.tag
      some (v, settle m v anchors inner, ts)
    | .blockEntry :: _ =>
      if place = .member then
        let (items, inner, ts) ← readLooseItems? handles fuel inner ts
        let v := Node.sequence items m.tag
        some (v, settle m v anchors inner, ts)
      else empty m anchors ts
    | .blockSequence :: rest =>
      if place ≠ .flow then
        let (items, inner, ts) ← readItems? handles fuel inner rest
        let v := Node.sequence items m.tag
        some (v, settle m v anchors inner, ts)
      else empty m anchors ts
    | .blockMapping :: rest =>
      if place ≠ .flow then
        let (members, inner, ts) ← readMembers? handles fuel inner rest
        let v := Node.mapping members m.tag
        some (v, settle m v anchors inner, ts)
      else empty m anchors ts
    | ts => empty m anchors ts

/-- Entries of a block sequence up to its end. -/
def readItems? (handles : List (String × String)) :
    Nat → Anchors → List Token → Option (List Node × Rest)
  | 0, _, _ => none
  | fuel + 1, anchors, .blockEntry :: ts => do
    let (v, anchors, ts) ←
      if endsEntry ts then some (absent, anchors, ts) else read? handles fuel .block anchors ts
    let (vs, anchors, ts) ← readItems? handles fuel anchors ts
    some (v :: vs, anchors, ts)
  | _, anchors, .blockEnd :: ts => some ([], anchors, ts)
  | _, _, _ => none

/-- Entries of a sequence that is not indented. -/
def readLooseItems? (handles : List (String × String)) :
    Nat → Anchors → List Token → Option (List Node × Rest)
  | 0, _, _ => none
  | fuel + 1, anchors, .blockEntry :: ts => do
    let (v, anchors, ts) ←
      if endsLooseEntry ts then some (absent, anchors, ts) else read? handles fuel .block anchors ts
    let (vs, anchors, ts) ← readLooseItems? handles fuel anchors ts
    some (v :: vs, anchors, ts)
  | _, anchors, ts => some ([], anchors, ts)

/-- Members of a block mapping up to its end. -/
def readMembers? (handles : List (String × String)) :
    Nat → Anchors → List Token → Option (List (Node × Node) × Rest)
  | 0, _, _ => none
  | fuel + 1, anchors, .key :: ts => do
    let (k, anchors, ts) ←
      if endsMember ts then some (absent, anchors, ts) else read? handles fuel .member anchors ts
    readValue? handles fuel k anchors ts
  | fuel + 1, anchors, .value :: ts => readValue? handles fuel absent anchors (.value :: ts)
  | _, anchors, .blockEnd :: ts => some ([], anchors, ts)
  | _, _, _ => none

/-- The value for a key of a block mapping, and the members after it. -/
def readValue? (handles : List (String × String)) :
    Nat → Node → Anchors → List Token → Option (List (Node × Node) × Rest)
  | 0, _, _, _ => none
  | fuel + 1, k, anchors, ts => do
    let (v, anchors, ts) ← match ts with
      | .value :: ts =>
        if endsMember ts then some (absent, anchors, ts) else read? handles fuel .member anchors ts
      | ts => some (absent, anchors, ts)
    let (ms, anchors, ts) ← readMembers? handles fuel anchors ts
    some ((k, v) :: ms, anchors, ts)

/-- Items up to a closing bracket. An item may be a single pair. -/
def readFlowItems? (handles : List (String × String)) :
    Nat → Bool → Anchors → List Token → Option (List Node × Rest)
  | 0, _, _, _ => none
  | _ + 1, _, anchors, .flowSequenceEnd :: ts => some ([], anchors, ts)
  | fuel + 1, first, anchors, ts => do
    let ts ← if first then some ts else match ts with
      | .flowEntry :: ts => some ts
      | _ => none
    match ts with
    | .flowSequenceEnd :: ts => some ([], anchors, ts)
    | .key :: ts =>
      let (v, anchors, ts) ← readPair? handles fuel anchors ts
      let (vs, anchors, ts) ← readFlowItems? handles fuel false anchors ts
      some (v :: vs, anchors, ts)
    | ts =>
      let (v, anchors, ts) ← read? handles fuel .flow anchors ts
      let (vs, anchors, ts) ← readFlowItems? handles fuel false anchors ts
      some (v :: vs, anchors, ts)

/-- A single pair as an item; an empty key swallows the mark behind it. -/
def readPair? (handles : List (String × String)) :
    Nat → Anchors → List Token → Option (Node × Rest)
  | 0, _, _ => none
  | fuel + 1, anchors, ts => do
    let (k, anchors, ts) ←
      if endsFlowKey .flowSequenceEnd ts then some (absent, anchors, ts.drop 1)
      else read? handles fuel .flow anchors ts
    let (v, anchors, ts) ← readFlowValue? handles fuel .flowSequenceEnd anchors ts
    some (.mapping [(k, v)] none, anchors, ts)

/-- The value behind a key inside brackets; nothing where none is written. -/
def readFlowValue? (handles : List (String × String)) :
    Nat → Token → Anchors → List Token → Option (Node × Rest)
  | 0, _, _, _ => none
  | fuel + 1, closing, anchors, .value :: ts =>
    if endsFlowValue closing ts then some (absent, anchors, ts)
    else read? handles fuel .flow anchors ts
  | _ + 1, _, anchors, ts => some (absent, anchors, ts)

/-- Members up to a closing brace. -/
def readFlowMembers? (handles : List (String × String)) :
    Nat → Bool → Anchors → List Token → Option (List (Node × Node) × Rest)
  | 0, _, _, _ => none
  | _ + 1, _, anchors, .flowMappingEnd :: ts => some ([], anchors, ts)
  | fuel + 1, first, anchors, ts => do
    let ts ← if first then some ts else match ts with
      | .flowEntry :: ts => some ts
      | _ => none
    match ts with
    | .flowMappingEnd :: ts => some ([], anchors, ts)
    | .key :: ts =>
      let (k, anchors, ts) ←
        if endsFlowKey .flowMappingEnd ts then some (absent, anchors, ts)
        else read? handles fuel .flow anchors ts
      let (v, anchors, ts) ← readFlowValue? handles fuel .flowMappingEnd anchors ts
      let (ms, anchors, ts) ← readFlowMembers? handles fuel false anchors ts
      some ((k, v) :: ms, anchors, ts)
    | ts =>
      let (k, anchors, ts) ← read? handles fuel .flow anchors ts
      let (ms, anchors, ts) ← readFlowMembers? handles fuel false anchors ts
      some ((k, absent) :: ms, anchors, ts)

/-- A node of which only its marks are written. -/
def empty (m : Marks) (anchors : Anchors) (ts : List Token) : Option (Node × Rest) :=
  if m.isEmpty then none
  else
    let v := Node.scalar "" .plain m.tag
    some (v, remember m v anchors, ts)

end

/-! ## Documents -/

/-- Directives up to the start of a document: at most one version, of the first
generation, and one expansion a handle. -/
def readDirectives? (versioned : Bool) (handles : List (String × String)) :
    List Token → Option (List (String × String) × List Token)
  | .version major minor :: ts =>
    if versioned || major ≠ 1 || (minor ≠ 1 && minor ≠ 2) then none
    else readDirectives? true handles ts
  | .tagHandle handle expansion :: ts =>
    if (handles.lookup handle).isSome then none
    else readDirectives? versioned ((handle, expansion) :: handles) ts
  | .documentStart :: ts => some (handles, ts)
  | _ => none

/-- Tokens that leave a document empty. -/
def endsDocument : List Token → Bool
  | [] => true
  | .version .. :: _ | .tagHandle .. :: _ | .documentStart :: _ | .documentEnd :: _ => true
  | _ => false

/-- The node of a document that has been opened, followed only by marks of its end. -/
def readContent? (handles : List (String × String)) (ts : List Token) : Option Node := do
  let (v, _, rest) ←
    if endsDocument ts then some (absent, [], ts)
    else read? handles (4 * ts.length + 4) .block [] ts
  if rest.all (· == .documentEnd) then some v else none

/-- The node of the only document among tokens. Without a token there is a document in
which nothing is written. -/
def ofTokens? (ts : List Token) : Option Node :=
  match ts with
  | [] => some absent
  | .version .. :: _ | .tagHandle .. :: _ | .documentStart :: _ => do
    let (handles, ts) ← readDirectives? false [] ts
    readContent? handles ts
  | .documentEnd :: _ => none
  | ts => readContent? [] ts

def parse? (text : String) : Option Node := do
  ofTokens? (← Token.scan? text)

end Node
end SecretLayers.Yaml
