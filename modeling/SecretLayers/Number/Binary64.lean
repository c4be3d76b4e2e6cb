/-!
Doubles as exact values.

A finite double is a significand times a power of two, counted in units of the least
positive double (two to the power -1074). Every operation is stated as "the double
nearest to the exact result", so each is one rounding of a quotient of naturals.
-/
namespace SecretLayers

/-- A double: a sign, and for a finite one its magnitude `significand * 2 ^ scale`
in units of the least positive double. -/
inductive Binary64 where
  | nan (negative : Bool)
  | infinity (negative : Bool)
  | finite (negative : Bool) (significand scale : Nat)
  deriving DecidableEq, Repr, Inhabited

namespace Binary64

/-- How many units make one. -/
def unitsPerOne : Nat := Nat.pow 2 1074

/-- The integer nearest to a quotient, an exact half going to the even neighbour. -/
def roundQuotient (num den : Nat) : Nat :=
  let q := num / den
  let r := num % den
  if 2 * r < den then q
  else if den < 2 * r then q + 1
  else if q % 2 = 0 then q else q + 1

/-- The double nearest to `num / den` units. -/
def ofUnits (negative : Bool) (num den : Nat) : Binary64 :=
  let scale := (num / den).log2 - 52
  let m := roundQuotient num (den * Nat.pow 2 scale)
  let (m, scale) := if m = Nat.pow 2 53 then (Nat.pow 2 52, scale + 1) else (m, scale)
  if 2045 < scale then .infinity negative else .finite negative m scale

/-- The double nearest to `num / den`. -/
def ofRatio (negative : Bool) (num den : Nat) : Binary64 :=
  ofUnits negative (num * unitsPerOne) den

def ofNat (n : Nat) : Binary64 := ofRatio false n 1

def zero : Binary64 := .finite false 0 0

def one : Binary64 := ofNat 1

def isFinite : Binary64 → Bool
  | .finite .. => true
  | _ => false

/-- The magnitude of a finite double, in units. -/
def units : Binary64 → Nat
  | .finite _ m s => m * Nat.pow 2 s
  | _ => 0

def isNegative : Binary64 → Bool
  | .nan n | .infinity n | .finite n _ _ => n

def neg : Binary64 → Binary64
  | .nan n => .nan !n
  | .infinity n => .infinity !n
  | .finite n m s => .finite (!n) m s

def mul : Binary64 → Binary64 → Binary64
  | .nan _, _ | _, .nan _ => .nan false
  | .infinity a, .infinity b => .infinity (a != b)
  | .infinity a, .finite b m _ | .finite b m _, .infinity a =>
    if m = 0 then .nan false else .infinity (a != b)
  | .finite a m s, .finite b n t =>
    ofUnits (a != b) (m * n * Nat.pow 2 (s + t)) unitsPerOne

def div : Binary64 → Binary64 → Binary64
  | .nan _, _ | _, .nan _ => .nan false
  | .infinity _, .infinity _ => .nan false
  | .infinity a, .finite b _ _ => .infinity (a != b)
  | .finite a _ _, .infinity b => .finite (a != b) 0 0
  | .finite a m s, .finite b n t =>
    if n = 0 then (if m = 0 then .nan false else .infinity (a != b))
    else ofRatio (a != b) (m * Nat.pow 2 s) (n * Nat.pow 2 t)

/-- The signed magnitude of a finite double, in units. -/
def signedUnits : Binary64 → Int
  | .finite true m s => -((m * Nat.pow 2 s : Nat) : Int)
  | .finite false m s => ((m * Nat.pow 2 s : Nat) : Int)
  | _ => 0

/-- Strictly less; false whenever a side is not a number. -/
def lt : Binary64 → Binary64 → Bool
  | .nan _, _ | _, .nan _ => false
  | .infinity a, .infinity b => a && !b
  | .infinity a, .finite .. => a
  | .finite .., .infinity b => !b
  | x@(.finite ..), y@(.finite ..) => x.signedUnits < y.signedUnits

/-- The 64 bits of the interchange format. -/
def toBits (x : Binary64) : Nat :=
  let sign := if x.isNegative then Nat.pow 2 63 else 0
  match x with
  | .nan _ => sign + 0x7FF8000000000000
  | .infinity _ => sign + 0x7FF0000000000000
  | .finite _ m s =>
    sign + if m < Nat.pow 2 52 then m else (s + 1) * Nat.pow 2 52 + (m - Nat.pow 2 52)

/-- Sixteen hexadecimal digits of the bits. -/
def hexBits (x : Binary64) : String :=
  let digits := (Nat.toDigits 16 x.toBits)
  String.ofList (List.replicate (16 - digits.length) '0' ++ digits)

end Binary64
end SecretLayers
