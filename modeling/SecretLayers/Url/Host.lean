import SecretLayers.Url.Basic
import SecretLayers.Url.Escape
import SecretLayers.Url.Name
/-!
Reading the host of an address.
-/
namespace SecretLayers.Url

/-- Why a text is no address. -/
inductive Fault where
  | emptyHost
  | invalidName
  | invalidPort
  | invalidIpv4
  | invalidIpv6
  | invalidCharacter
  | relativeWithoutBase
  | relativeToWhole
  deriving DecidableEq, Repr

def Fault.message : Fault → String
  | emptyHost => "empty host"
  | invalidName => "invalid international domain name"
  | invalidPort => "invalid port number"
  | invalidIpv4 => "invalid IPv4 address"
  | invalidIpv6 => "invalid IPv6 address"
  | invalidCharacter => "invalid domain character"
  | relativeWithoutBase => "relative URL without a base"
  | relativeToWhole => "relative URL with a cannot-be-a-base base"

/-! ## Numbers -/

/-- Digits after the mark of their base: `0x`, a zero, or none. -/
def baseOf : List Char → Nat × List Char
  | '0' :: 'x' :: ds | '0' :: 'X' :: ds => (16, ds)
  | '0' :: d :: ds => (8, d :: ds)
  | ds => (10, ds)

/-- A number of any base; it may lack digits after the mark of the base. -/
def readNumber? (part : List Char) : Option Nat :=
  if part.isEmpty then none
  else
    let (base, ds) := baseOf part
    ds.foldl (fun n d => do return base * (← n) + (← digitValue? base d)) (some 0)

/-- Pieces between points, without the empty one behind a final point. -/
def dottedParts (name : List Char) : List (List Char) :=
  let parts := Text.splitChars (· == '.') name
  if 1 < parts.length ∧ parts.getLast? = some [] then parts.dropLast else parts

/-- Whether the last part of a name makes it a numeric address. -/
def endsInNumber (name : List Char) : Bool :=
  match (dottedParts name).getLast? with
  | none => false
  | some last => (!last.isEmpty && last.all Char.isDigit) || (readNumber? last).isSome

/-- The parts of a numeric address; the last one fills what the others leave. -/
def readIpv4? (name : List Char) : Option Nat := do
  let parts := dottedParts name
  if 4 < parts.length then none
  let numbers ← parts.mapM readNumber?
  let last ← numbers.getLast?
  let others := numbers.dropLast
  if others.any (255 < ·) ∨ Nat.pow 256 (4 - others.length) ≤ last then none
  some (others.zipIdx.foldl (fun n (x, i) => n + x * Nat.pow 256 (3 - i)) last)

/-- One decimal part of an address within an address; no leading zero, at most 255. -/
def readOctet? (cs : List Char) : Option (Nat × List Char) :=
  let ds := cs.takeWhile Char.isDigit
  let n := digitsValue ds
  if ds.isEmpty ∨ (1 < ds.length ∧ ds.head? = some '0') ∨ 255 < n then none
  else some (n, cs.drop ds.length)

/-- Four decimal parts with points between them, as two pieces. -/
def readOctets? (cs : List Char) : Option (List Nat) := do
  let (a, cs) ← readOctet? cs
  let (b, cs) ← readOctet? (← afterPoint? cs)
  let (c, cs) ← readOctet? (← afterPoint? cs)
  let (d, cs) ← readOctet? (← afterPoint? cs)
  if cs.isEmpty then some [256 * a + b, 256 * c + d] else none
where
  afterPoint? : List Char → Option (List Char)
    | '.' :: cs => some cs
    | _ => none

/-- Pieces of a long address: those read so far, and how many of them stood before the
gap of zeros, if there was one. -/
def readPieces? : Nat → List Nat → Option Nat → List Char → Option (List Nat × Option Nat)
  | 0, _, _, _ => none
  | _ + 1, pieces, gap, [] => some (pieces, gap)
  | fuel + 1, pieces, gap, cs =>
    if 8 ≤ pieces.length + (if gap.isSome then 1 else 0) then none
    else match cs with
      | ':' :: cs => if gap.isSome then none else readPieces? fuel pieces (some pieces.length) cs
      | cs =>
        let ds := (cs.take 4).takeWhile fun c => (digitValue? 16 c).isSome
        let n := ds.foldl (fun n d => 16 * n + (digitValue? 16 d).getD 0) 0
        match cs.drop ds.length with
        | '.' :: _ =>
          if ds.isEmpty ∨ 6 < pieces.length + (if gap.isSome then 1 else 0) then none
          else (readOctets? cs).map fun last => (pieces ++ last, gap)
        | ':' :: rest => if rest.isEmpty then none else readPieces? fuel (pieces ++ [n]) gap rest
        | [] => some (pieces ++ [n], gap)
        | _ => none

/-- The pieces of a long address; a gap stands for at least one zero. -/
def readIpv6? (cs : List Char) : Option (List Nat) := do
  let (pieces, gap) ← match cs with
    | ':' :: ':' :: rest => readPieces? (cs.length + 1) [] (some 0) rest
    | ':' :: _ => none
    | cs => if cs.length < 2 then none else readPieces? (cs.length + 1) [] none cs
  match gap with
  | none => if pieces.length = 8 then some pieces else none
  | some k =>
    if pieces.length ≤ 7 then
      some (pieces.take k ++ List.replicate (8 - pieces.length) 0 ++ pieces.drop k)
    else none

/-- The address between brackets. -/
def readBracketed (cs : List Char) : Except Fault Host :=
  match (if cs.getLast? = some ']' then readIpv6? ((cs.drop 1).dropLast) else none) with
  | some pieces => .ok (.ipv6 pieces)
  | none => .error .invalidIpv6

/-! ## Hosts -/

/-- Characters that no host name has, control characters apart. -/
def isForbiddenInName (c : Char) : Bool :=
  c.toNat ≤ 0x20 || c.toNat == 0x7F || "%#/:<>?@[\\]^|".toList.contains c

/-- The host of a special address. -/
def readHost (cs : List Char) : Except Fault Host :=
  if cs.head? = some '[' then readBracketed cs
  else
    match (decode? (unescape cs)).bind Name.toAscii? with
    | none => .error .invalidName
    | some name =>
      if name.any isForbiddenInName then .error .invalidName
      else if name.isEmpty then .error .emptyHost
      else if endsInNumber name then
        match readIpv4? name with
        | some n => .ok (.ipv4 n)
        | none => .error .invalidIpv4
      else .ok (.name name)

/-- Characters that no host of another address has. -/
def isForbiddenInHost (c : Char) : Bool :=
  "\x00\t\n\r #/:<>?@[\\]^|".toList.contains c

/-- The host of an address that is not special; none where nothing is written. -/
def readFreeHost (cs : List Char) : Except Fault (Option Host) :=
  if cs.head? = some '[' then (readBracketed cs).map some
  else if cs.any isForbiddenInHost then .error .invalidCharacter
  else if cs.isEmpty then .ok none
  else .ok (some (.name (escape [] cs)))

end SecretLayers.Url
