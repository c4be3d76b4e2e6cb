import SecretLayers.Number.Binary64
/-!
Reading numbers written in decimal.

Integers are read with a bound, so that the two ways of failing (a character that is no
digit, a value that does not fit) stay apart. A decimal fraction is read as the double
nearest to it.
-/
namespace SecretLayers

/-- The value of a run of decimal digits. -/
def digitsValue (ds : List Char) : Nat :=
  ds.foldl (fun n c => 10 * n + (c.toNat - 48)) 0

/-- Why a text is no integer of the wanted range. -/
inductive IntegerFault where
  | empty
  | invalidDigit
  | tooLarge
  deriving DecidableEq, Repr

def IntegerFault.message : IntegerFault → String
  | .empty => "cannot parse integer from empty string"
  | .invalidDigit => "invalid digit found in string"
  | .tooLarge => "number too large to fit in target type"

/-- Value of a digit in a base up to sixteen. -/
def digitValue? (base : Nat) (c : Char) : Option Nat :=
  let n := c.toNat
  let v :=
    if 48 ≤ n ∧ n ≤ 57 then some (n - 48)
    else if 97 ≤ n ∧ n ≤ 102 then some (n - 87)
    else if 65 ≤ n ∧ n ≤ 70 then some (n - 55)
    else none
  v.filter (· < base)

/-- Digits of a base from the left; a value beyond `limit` is refused where it arises. -/
def readDigits (base limit : Nat) : Nat → List Char → Except IntegerFault Nat
  | n, [] => .ok n
  | n, c :: cs =>
    match digitValue? base c with
    | none => .error .invalidDigit
    | some d => if base * n + d ≤ limit then readDigits base limit (base * n + d) cs else .error .tooLarge

/-- An unsigned integer of at most `limit`, with an optional plus sign. -/
def readNatural (base limit : Nat) (cs : List Char) : Except IntegerFault Nat :=
  match cs with
  | [] => .error .empty
  | ['+'] | ['-'] => .error .invalidDigit
  | '+' :: cs => readDigits base limit 0 cs
  | cs => readDigits base limit 0 cs

/-- The greatest unsigned integer of 64 bits. -/
def maxUnsigned64 : Nat := Nat.pow 2 64 - 1

/-- A decimal number: `coefficient * 10 ^ exponent` with a sign. -/
structure Decimal where
  negative : Bool
  coefficient : Nat
  exponent : Int
  deriving DecidableEq, Repr

namespace Decimal

/-- The double nearest to a decimal. Beyond four hundred powers of ten on either side of
one the outcome no longer depends on the digits, so no such power is formed. -/
def nearest (d : Decimal) : Binary64 :=
  if d.coefficient = 0 then .finite d.negative 0 0
  else
    let top : Int := ((Nat.toDigits 10 d.coefficient).length : Int) + d.exponent
    if 400 < top then .infinity d.negative
    else if top < -400 then .finite d.negative 0 0
    else if 0 ≤ d.exponent then .ofRatio d.negative (d.coefficient * Nat.pow 10 d.exponent.toNat) 1
    else .ofRatio d.negative d.coefficient (Nat.pow 10 (-d.exponent).toNat)

/-- An exponent part: nothing, or a mark, an optional sign and digits. -/
def readExponent? : List Char → Option Int
  | [] => some 0
  | c :: cs =>
    if c = 'e' ∨ c = 'E' then
      let (sign, ds) : Int × List Char := match cs with
        | '-' :: ds => (-1, ds)
        | '+' :: ds => (1, ds)
        | ds => (1, ds)
      if ds.isEmpty || !ds.all Char.isDigit then none else some (sign * digitsValue ds)
    else none

/-- Digits with an optional point and exponent; a digit must stand on one side of the point. -/
def readUnsigned? (negative : Bool) (cs : List Char) : Option Decimal :=
  let whole := cs.takeWhile Char.isDigit
  let rest := cs.dropWhile Char.isDigit
  let (fraction, rest) := match rest with
    | '.' :: rest => (rest.takeWhile Char.isDigit, rest.dropWhile Char.isDigit)
    | rest => ([], rest)
  if whole.isEmpty && fraction.isEmpty then none
  else (readExponent? rest).map fun e =>
    { negative, coefficient := digitsValue (whole ++ fraction), exponent := e - fraction.length }

end Decimal

/-- The words for values that are not finite, in any letter case. -/
def readSpecial? (negative : Bool) (cs : List Char) : Option Binary64 :=
  let word := cs.map Char.toLower
  if word = "inf".toList ∨ word = "infinity".toList then some (.infinity negative)
  else if word = "nan".toList then some (.nan negative)
  else none

/-- A double as a setting spells it: a signed decimal, or a word such as `inf` or `nan`. -/
def readDouble? (s : String) : Option Binary64 :=
  let (negative, cs) := match s.toList with
    | '-' :: cs => (true, cs)
    | '+' :: cs => (false, cs)
    | cs => (false, cs)
  (readSpecial? negative cs).or ((Decimal.readUnsigned? negative cs).map Decimal.nearest)

end SecretLayers
