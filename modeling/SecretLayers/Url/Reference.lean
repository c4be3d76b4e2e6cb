import SecretLayers.Url.Host
/-!
Reading addresses, alone or relative to another.

Blanks around a text and line breaks and tabs anywhere in it do not count. A reference
without a scheme, or with the scheme of its base and less than two slashes, is relative:
it keeps the parts of the base up to the first one it gives itself. Segments of one point
are dropped from paths, and those of two take the segment before them along.
-/
namespace SecretLayers.Url

/-! ## Characters -/

/-- A slash, or the backslash that special addresses read as one. -/
def isSlash (special : Bool) (c : Char) : Bool := c == '/' || (special && c == '\\')

def endsPath (c : Char) : Bool := c == '?' || c == '#'

def endsAuthority (special : Bool) (c : Char) : Bool := isSlash special c || endsPath c

/-- The text of an address without what does not count in it. -/
def significant (text : String) : List Char :=
  (Text.strip (·.toNat ≤ 0x20) text.toList).filter fun c => c != '\t' && c != '\n' && c != '\r'

/-! ## Schemes -/

def isSchemeChar (c : Char) : Bool := c.isAlphanum || c == '+' || c == '-' || c == '.'

/-- The scheme in lower case, and what follows its colon. -/
def splitScheme? (cs : List Char) : Option (List Char × List Char) :=
  match cs.dropWhile isSchemeChar with
  | ':' :: rest =>
    if (cs.head?.any Char.isAlpha) then some ((cs.takeWhile isSchemeChar).map Char.toLower, rest)
    else none
  | _ => none

/-! ## Paths -/

/-- A segment of one point, which may be escaped. -/
def isHere (s : List Char) : Bool :=
  s == ['.'] || s.map Char.toLower == "%2e".toList

/-- A segment of two points, each of which may be escaped. -/
def isUp (s : List Char) : Bool :=
  let s := s.map Char.toLower
  s == "..".toList || s == ".%2e".toList || s == "%2e.".toList || s == "%2e%2e".toList

/-- Adds a piece of a path to segments in reverse. The last piece always leaves a
segment. -/
def addPiece (last : Bool) (segments : List (List Char)) (piece : List Char) : List (List Char) :=
  if isUp piece then (if last then [] :: segments.tail else segments.tail)
  else if isHere piece then (if last then [] :: segments else segments)
  else escape pathSet piece :: segments

def addPieces (segments : List (List Char)) : List (List Char) → List (List Char)
  | [] => segments
  | [piece] => addPiece true segments piece
  | piece :: rest => addPieces (addPiece false segments piece) rest

/-- The segments of a path text, behind segments that stand before it. -/
def readSegments (special : Bool) (before : List (List Char)) (cs : List Char) : List (List Char) :=
  (addPieces before.reverse (Text.splitChars (isSlash special) cs)).reverse

/-- The path of an address that stands alone, from behind its authority on. -/
def readPath (special : Bool) (cs : List Char) : Path :=
  match cs with
  | [] => .segments (if special then [[]] else [])
  | c :: rest => .segments (readSegments special [] (if isSlash special c then rest else c :: rest))

/-! ## Files -/

def isDrive (s : List Char) : Bool :=
  match s with
  | [c, d] => c.isAlpha && (d == ':' || d == '|')
  | _ => false

/-- A drive at the front of a path keeps its place, and is written with a colon. -/
def addFilePiece (last : Bool) (segments : List (List Char)) (piece : List Char) :
    List (List Char) :=
  if isUp piece && segments.length == 1 && segments.all isDrive then
    (if last then [] :: segments else segments)
  else if segments.isEmpty && isDrive piece then [piece.take 1 ++ [':']]
  else addPiece last segments piece

def addFilePieces (segments : List (List Char)) : List (List Char) → List (List Char)
  | [] => segments
  | [piece] => addFilePiece true segments piece
  | piece :: rest => addFilePieces (addFilePiece false segments piece) rest

/-- The segments of a file's path; it does not start with empty ones. -/
def readFilePath (cs : List Char) : Path :=
  let segments := (addFilePieces [] (Text.splitChars (isSlash true) cs)).reverse
  let kept := segments.dropWhile List.isEmpty
  .segments (if kept.isEmpty then [[]] else kept)

/-- A file on a host or on none, from behind the colon on. -/
def readFile (cs : List Char) : Except Fault (Option Host × Path) :=
  match cs with
  | c :: d :: rest =>
    if isSlash true c && isSlash true d then
      let name := rest.takeWhile fun c => !endsAuthority true c
      if name.isEmpty ∨ isDrive name then .ok (none, readFilePath rest)
      else do
        let host ← readHost name
        let after := rest.drop name.length
        let path := readFilePath (after.drop 1)
        .ok (if host = .name "localhost".toList then none else some host, path)
    else .ok (none, readFilePath (if isSlash true c then d :: rest else cs))
  | [c] => .ok (none, readFilePath (if isSlash true c then [] else cs))
  | [] => .ok (none, .segments [[]])

/-! ## Authorities -/

/-- A port of at most 16 bits, up to the path; none where it is missing or the usual one. -/
def readPort (scheme cs : List Char) : Except Fault (Option Nat) :=
  let ds := cs.takeWhile Char.isDigit
  match readDigits 10 65535 0 ds with
  | .error _ => .error .invalidPort
  | .ok n =>
    if ds.length ≠ cs.length then .error .invalidPort
    else .ok (if ds.isEmpty ∨ defaultPort? scheme = some n then none else some n)

/-- Name and password, split at the first colon. -/
def readUser (cs : List Char) : List Char × List Char :=
  let name := cs.takeWhile (· ≠ ':')
  (escape userSet name, escape userSet (cs.drop (name.length + 1)))

/-- The text up to the last sign before the host, and what follows it. -/
def splitUser (cs : List Char) : Option (List Char) × List Char :=
  let host := (cs.reverse.takeWhile (· ≠ '@')).reverse
  if host.length = cs.length then (none, cs)
  else (some (cs.take (cs.length - host.length - 1)), host)

/-- The text of a host up to its port; colons between brackets belong to it. -/
def splitHost (bracketed : Bool) : List Char → List Char × List Char
  | [] => ([], [])
  | c :: cs =>
    if c == ':' && !bracketed then ([], c :: cs)
    else
      let (host, rest) := splitHost (if c == '[' then true else if c == ']' then false else bracketed) cs
      (c :: host, rest)

/-- An authority, given as the text between the slashes and the path. -/
def readAuthority (scheme cs : List Char) : Except Fault Authority := do
  let (user, rest) := splitUser cs
  if user.isSome ∧ rest.isEmpty then .error .emptyHost
  let (hostText, rest) := splitHost false rest
  let host ←
    if isSpecial scheme then
      if hostText.isEmpty then .error .emptyHost else (readHost hostText).map some
    else readFreeHost hostText
  if host.isNone ∧ rest ≠ [] then .error .emptyHost
  let port ← match rest with
    | ':' :: port => readPort scheme port
    | _ => .ok none
  let (username, password) := (user.map readUser).getD ([], [])
  if host.isNone ∧ !(username.isEmpty ∧ password.isEmpty) then .error .emptyHost
  .ok { username, password, host, port }

/-! ## Query and fragment -/

/-- The text of a path, the query and the fragment. -/
structure Parts where
  path : List Char
  query : Option (List Char)
  fragment : Option (List Char)

def splitParts (special : Bool) (cs : List Char) : Parts :=
  let fragment := match cs.dropWhile (· ≠ '#') with
    | _ :: rest => some (escape fragmentSet rest)
    | [] => none
  let cs := cs.takeWhile (· ≠ '#')
  let query := match cs.dropWhile (· ≠ '?') with
    | _ :: rest => some (escape (if special then webQuerySet else querySet) rest)
    | [] => none
  { path := cs.takeWhile (· ≠ '?'), query, fragment }

/-! ## Addresses -/

/-- An address from behind its two slashes on. -/
def readAfterSlashes (scheme cs : List Char) : Except Fault Url := do
  let special := isSpecial scheme
  let text := cs.takeWhile fun c => !endsAuthority special c
  let authority ← readAuthority scheme text
  let parts := splitParts special (cs.drop text.length)
  .ok { scheme, authority := some authority, path := readPath special parts.path,
        query := parts.query, fragment := parts.fragment }

/-- An address of a scheme without rules of its own, from behind the colon on. -/
def readFree (scheme cs : List Char) : Except Fault Url :=
  match cs with
  | '/' :: '/' :: rest => readAfterSlashes scheme rest
  | cs =>
    let parts := splitParts false cs
    let path : Path := match parts.path with
      | '/' :: rest => .segments (readSegments false [] rest)
      | text => .whole (escape [] text)
    .ok { scheme, authority := none, path, query := parts.query, fragment := parts.fragment }

/-- An address with a scheme, standing alone. -/
def readAlone (scheme cs : List Char) : Except Fault Url :=
  if isFile scheme then do
    let parts := splitParts true cs
    let (host, path) ← readFile parts.path
    .ok { scheme, authority := some { host }, path, query := parts.query, fragment := parts.fragment }
  else if isWeb scheme then readAfterSlashes scheme (cs.dropWhile (isSlash true))
  else readFree scheme cs

/-- The segments of a path, without the last one. -/
def Path.parent : Path → List (List Char)
  | .segments list => list.dropLast
  | .whole _ => []

/-- A reference without a scheme, relative to an address with segments. -/
def readRelative (base : Url) (cs : List Char) : Except Fault Url :=
  let special := isSpecial base.scheme
  let parts := splitParts special cs
  match cs with
  | c :: rest =>
    if isSlash special c ∧ (rest.head?.any (isSlash special)) then
      match cs with
      | '/' :: '/' :: rest => readAfterSlashes base.scheme rest
      | cs => readAfterSlashes base.scheme (cs.dropWhile (isSlash special))
    else
      let path := match parts.path with
        | [] => base.path
        | d :: rest =>
          if isSlash special d then .segments (readSegments special [] rest)
          else .segments (readSegments special base.path.parent (d :: rest))
      .ok { base with
        path
        query := if parts.path.isEmpty then parts.query.or base.query else parts.query
        fragment := parts.fragment }
  | [] => .ok { base with fragment := none }

/-- Reads a text as an address, relative to a base if there is one. -/
def parse (base : Option Url) (text : String) : Except Fault Url :=
  let cs := significant text
  match splitScheme? cs, base with
  | some (scheme, rest), some base =>
    let slashes := (rest.takeWhile (isSlash true)).length
    if isWeb scheme ∧ scheme = base.scheme ∧ slashes < 2 then readRelative base rest
    else readAlone scheme rest
  | some (scheme, rest), none => readAlone scheme rest
  | none, none => .error .relativeWithoutBase
  | none, some base =>
    match base.path with
    | .segments _ => readRelative base cs
    | .whole _ =>
      if cs.head? = some '#' then .ok { base with fragment := (splitParts false cs).fragment }
      else .error .relativeToWhole

end SecretLayers.Url
