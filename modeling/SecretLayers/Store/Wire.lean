import SecretLayers.Json.Printer
import SecretLayers.Store.Request
import SecretLayers.Text.Lossy
/-!
Requests and answers as they travel over a connection that carries one of each.

An answer has a head of lines and, after an empty line, a body: in chunks, of a length that
the head tells, or all that comes. Provisional answers before it are passed over.
-/
namespace SecretLayers.Wire

/-! ## Requests -/

def lineEnd : String := "\r\n"

/-- Path and query of an address. -/
def target (u : Url) : String := String.ofList (u.path.chars ++ Url.marked '?' u.query)

/-- Host and port of an address, the usual port left out. -/
def hostOf (u : Url) : String :=
  match u.withoutCredentials.authority with
  | some a => String.ofList a.chars
  | none => ""

def verbName : Verb → String
  | .get => "GET"
  | .post => "POST"

def field (name value : String) : String := name ++ ": " ++ value ++ lineEnd

/-- A field of the head, where there is a value for it. -/
def fieldOf (name : String) (value : Option String) : String := (value.map (field name)).getD ""

/-- The whole text of a request. -/
def requestText (r : Request) : String :=
  let body := r.body.map Json.render
  let length := match r.verb, body with
    | .get, none => none
    | _, body => some (toString (body.getD "").utf8ByteSize)
  verbName r.verb ++ " " ++ target r.url ++ " HTTP/1.1" ++ lineEnd ++
    field "Host" (hostOf r.url) ++ field "Accept" "*/*" ++ field "Connection" "close" ++
    fieldOf "X-Vault-Namespace" r.namespaceName ++ fieldOf "X-Vault-Token" r.token ++
    fieldOf "Content-Type" (body.map fun _ => "application/json") ++
    fieldOf "Content-Length" length ++ lineEnd ++ body.getD ""

/-! ## Answers -/

structure Reply where
  status : Nat
  /-- Fields by name in lower case. -/
  fields : List (String × String)
  body : List UInt8

/-- The lines up to an empty one, and what follows it. -/
def splitHead : List Char → List UInt8 → Option (List String × List UInt8)
  | _, [] => none
  | line, 13 :: 10 :: rest =>
    if line.isEmpty then some ([], rest)
    else (splitHead [] rest).map fun (lines, body) => (String.ofList line.reverse :: lines, body)
  | line, b :: rest => splitHead (Char.ofNat b.toNat :: line) rest

/-- The status in the first line of a head. -/
def readStatus? (line : String) : Option Nat :=
  match Text.splitAt ' ' line with
  | _ :: code :: _ => (readNatural 10 999 code.toList).toOption
  | _ => none

def readField (line : String) : String × String :=
  let name := line.toList.takeWhile (· ≠ ':')
  (Text.lowerAscii (Text.trim (String.ofList name)),
    Text.trim (String.ofList (line.toList.drop (name.length + 1))))

/-- The bytes of a line and what follows its end. -/
def splitLine (bytes : List UInt8) : Option (List UInt8 × List UInt8) :=
  match bytes with
  | [] => none
  | 13 :: 10 :: rest => some ([], rest)
  | b :: rest => (splitLine rest).map fun (line, rest) => (b :: line, rest)

/-- The content of chunks up to an empty one. The first argument bounds their number. -/
def joinChunks? : Nat → List UInt8 → Option (List UInt8)
  | 0, _ => none
  | fuel + 1, bytes => do
    let (line, rest) ← splitLine bytes
    let digits := (line.map fun b => Char.ofNat b.toNat).takeWhile fun c => (digitValue? 16 c).isSome
    let size ← (readNatural 16 maxUnsigned64 digits).toOption
    if size = 0 then some []
    else if rest.length < size then none
    else
      let (_, after) ← splitLine (rest.drop size)
      (joinChunks? fuel after).map (rest.take size ++ ·)

/-- The body behind a head; nothing where it has been cut short. -/
def bodyOf? (status : Nat) (fields : List (String × String)) (rest : List UInt8) :
    Option (List UInt8) :=
  if status = 204 ∨ status = 304 then some []
  else if fields.lookup "transfer-encoding" = some "chunked" then joinChunks? (rest.length + 1) rest
  else match fields.lookup "content-length" with
    | none => some rest
    | some s => match readNatural 10 maxUnsigned64 s.toList with
      | .ok n => if rest.length < n then none else some (rest.take n)
      | .error _ => none

/-- The answer in the bytes of a connection. The first argument bounds the number of
provisional answers. -/
def Reply.read? : Nat → List UInt8 → Option Reply
  | 0, _ => none
  | fuel + 1, bytes => do
    let (lines, rest) ← splitHead [] bytes
    let status ← readStatus? (lines.headD "")
    if 100 ≤ status ∧ status < 200 then Reply.read? fuel rest
    else
      let fields := lines.tail.map readField
      let body ← bodyOf? status fields rest
      some { status, fields, body }

def Reply.parse? (bytes : List UInt8) : Option Reply := Reply.read? (bytes.length + 1) bytes

def Reply.answer (r : Reply) : Answer := { status := r.status, body := Text.ofBytesLossy r.body }

/-! ## Redirections -/

def isRedirection (status : Nat) : Bool := [301, 302, 303, 307, 308].contains status

/-- The request that a reply redirects to. It keeps its verb and body only where the status
says so. -/
def Reply.redirect? (reply : Reply) (r : Request) : Option Request := do
  if !isRedirection reply.status then none
  let url ← (Url.parse (some r.url) (← reply.fields.lookup "location")).toOption
  if reply.status = 307 ∨ reply.status = 308 then some { r with url }
  else some { r with url, verb := .get, body := none }

/-- How many redirections are followed. -/
def redirectLimit : Nat := 10

end SecretLayers.Wire
