import SecretLayers.Number.Decimal
/-!
Addresses by their parts, and how they are written.
-/
namespace SecretLayers

inductive Url.Host where
  | name (text : List Char)
  | ipv4 (address : Nat)
  /-- Eight pieces of 16 bits. -/
  | ipv6 (pieces : List Nat)
  deriving DecidableEq, Repr

/-- Where an address points to, and as whom. No host is the empty one. -/
structure Url.Authority where
  username : List Char := []
  password : List Char := []
  host : Option Url.Host := none
  port : Option Nat := none
  deriving DecidableEq, Repr

/-- A path: segments behind slashes, or a text without structure. -/
inductive Url.Path where
  | segments (list : List (List Char))
  | whole (text : List Char)
  deriving DecidableEq, Repr

structure Url where
  scheme : List Char
  authority : Option Url.Authority
  path : Url.Path
  query : Option (List Char) := none
  fragment : Option (List Char) := none
  deriving DecidableEq, Repr

namespace Url

/-- Schemes with rules of their own, and their usual ports. -/
def webSchemes : List (List Char × Nat) :=
  [("http".toList, 80), ("https".toList, 443), ("ws".toList, 80), ("wss".toList, 443),
    ("ftp".toList, 21)]

def defaultPort? (scheme : List Char) : Option Nat := webSchemes.lookup scheme

/-- Schemes whose addresses always have a host, except files. -/
def isWeb (scheme : List Char) : Bool := (defaultPort? scheme).isSome

def isFile (scheme : List Char) : Bool := scheme == "file".toList

def isSpecial (scheme : List Char) : Bool := isWeb scheme || isFile scheme

/-- Whether an address of the scheme can be requested. -/
def isHttp (scheme : List Char) : Bool :=
  scheme == "http".toList || scheme == "https".toList

/-! ## Hosts -/

def renderIpv4 (n : Nat) : List Char :=
  let part (k : Nat) := Nat.toDigits 10 (n / Nat.pow 256 k % 256)
  part 3 ++ '.' :: part 2 ++ '.' :: part 1 ++ '.' :: part 0

/-- Start and length of the longest run of zeros, the first of those of one length. -/
def longestZeros (pieces : List Nat) : Nat × Nat :=
  let runAt (i : Nat) := ((pieces.drop i).takeWhile (· == 0)).length
  (List.range pieces.length).foldl
    (fun best i => if best.2 < runAt i then (i, runAt i) else best) (0, 0)

def joinPieces (pieces : List Nat) : List Char :=
  [':'].intercalate (pieces.map (Nat.toDigits 16))

/-- The longest run of at least two zeros is left out. -/
def renderIpv6 (pieces : List Nat) : List Char :=
  let (start, length) := longestZeros pieces
  '[' ::
    (if 2 ≤ length then
      joinPieces (pieces.take start) ++ [':', ':'] ++ joinPieces (pieces.drop (start + length))
    else joinPieces pieces) ++ [']']

def Host.chars : Host → List Char
  | .name text => text
  | .ipv4 n => renderIpv4 n
  | .ipv6 pieces => renderIpv6 pieces

/-! ## Writing -/

def Authority.chars (a : Authority) : List Char :=
  let password := if a.password.isEmpty then [] else ':' :: a.password
  let user := if a.username.isEmpty && password.isEmpty then [] else a.username ++ password ++ ['@']
  let port := match a.port with
    | some n => ':' :: Nat.toDigits 10 n
    | none => []
  user ++ (a.host.elim [] Host.chars) ++ port

def Path.chars : Path → List Char
  | .segments list => list.flatMap fun s => '/' :: s
  | .whole text => text

/-- The part before the path. A path that starts with two slashes is kept apart from a
missing host. -/
def origin (u : Url) : List Char :=
  u.scheme ++ ':' ::
    match u.authority with
    | some a => '/' :: '/' :: a.chars
    | none => match u.path with
      | .segments ([] :: _ :: _) => ['/', '.']
      | _ => []

def marked (mark : Char) : Option (List Char) → List Char
  | none => []
  | some cs => mark :: cs

def chars (u : Url) : List Char :=
  u.origin ++ u.path.chars ++ marked '?' u.query ++ marked '#' u.fragment

def render (u : Url) : String := String.ofList u.chars

/-- The address without credentials, as reports of failed requests show it. -/
def withoutCredentials (u : Url) : Url :=
  { u with authority := u.authority.map fun a => { a with username := [], password := [] } }

end Url
end SecretLayers
