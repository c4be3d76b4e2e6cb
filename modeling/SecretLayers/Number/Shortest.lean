import SecretLayers.Number.Binary64
/-!
The shortest decimal of a double.

Among the decimals that read back as the double, the one with the fewest digits is
chosen, and of those the one nearest to its exact value. On each grid of decimals only
the two neighbours of the value can be such, so they alone are tried.
-/
namespace SecretLayers

/-- Significant digits and the exponent of ten of the first of them. -/
structure Scientific where
  digits : Nat
  length : Nat
  exponent : Int
  deriving DecidableEq, Repr

namespace Binary64

/-- Numerators over `4 * unitsPerOne` of a double and of the two ends of the interval of
values that round to it. -/
structure Neighbourhood where
  low : Nat
  value : Nat
  high : Nat
  closed : Bool

def neighbourhood (m s : Nat) : Neighbourhood :=
  { low := (if m = Nat.pow 2 52 ∧ s ≠ 0 then 4 * m - 1 else 4 * m - 2) * Nat.pow 2 s
    value := 4 * m * Nat.pow 2 s
    high := (4 * m + 2) * Nat.pow 2 s
    closed := m % 2 = 0 }

/-- The exponent `e` with `10 ^ e ≤ num / den < 10 ^ (e + 1)`. -/
def decimalExponent (num den : Nat) : Int :=
  if den ≤ num then ((Nat.toDigits 10 (num / den)).length : Int) - 1
  else
    let l := (Nat.toDigits 10 (den / num)).length
    if den ≤ num * Nat.pow 10 (l - 1) then -((l : Int) - 1) else -(l : Int)

/-- Whether `c * 10 ^ e` lies in the neighbourhood. -/
def Neighbourhood.holds (n : Neighbourhood) (den c : Nat) (e : Int) : Bool :=
  let (p, low, high) :=
    if 0 ≤ e then (c * Nat.pow 10 e.toNat * den, n.low, n.high)
    else (c * den, n.low * Nat.pow 10 (-e).toNat, n.high * Nat.pow 10 (-e).toNat)
  if n.closed then low ≤ p && p ≤ high else low < p && p < high

/-- The neighbour, on the grid of multiples of `10 ^ e`, that reads back and is nearest. -/
def Neighbourhood.onGrid? (n : Neighbourhood) (den : Nat) (e : Int) : Option Nat :=
  let (num, step) :=
    if 0 ≤ e then (n.value, den * Nat.pow 10 e.toNat) else (n.value * Nat.pow 10 (-e).toNat, den)
  let c := num / step
  let r := num % step
  match n.holds den c e, n.holds den (c + 1) e with
  | true, true =>
    some (if 2 * r < step then c else if step < 2 * r then c + 1
      else if c % 2 = 0 then c else c + 1)
  | true, false => some c
  | false, true => some (c + 1)
  | false, false => none

/-- The first of the given numbers of digits whose grid holds a decimal that reads back. -/
def Neighbourhood.shortest (n : Neighbourhood) (den : Nat) (e : Int) : List Nat → Scientific
  | [] => { digits := 0, length := 1, exponent := 0 }
  | k :: ks =>
    match n.onGrid? den (e + 1 - k) with
    | some c =>
      if c = Nat.pow 10 k then { digits := 1, length := 1, exponent := e + 1 }
      else { digits := c, length := k, exponent := e }
    | none => n.shortest den e ks

/-- The shortest decimal of the magnitude `m * 2 ^ s` units, `m` not zero. -/
def shortestDigits (m s : Nat) : Scientific :=
  let n := neighbourhood m s
  let den := 4 * unitsPerOne
  n.shortest den (decimalExponent n.value den) (List.range' 1 17)

end Binary64

/-! ## The written form -/

/-- Which exponents of ten are written without an exponent. -/
structure FloatForm where
  leastPositional : Int
  greatestPositional : Int

/-- Doubles are written positionally, with at least one decimal, while their decimal
exponent is from -5 to 15. -/
def FloatForm.standard : FloatForm := ⟨-5, 15⟩

namespace Scientific

def digitChars (x : Scientific) : List Char :=
  let ds := Nat.toDigits 10 x.digits
  List.replicate (x.length - ds.length) '0' ++ ds

def render (form : FloatForm) (x : Scientific) : String :=
  let ds := x.digitChars
  if form.leastPositional ≤ x.exponent ∧ x.exponent ≤ form.greatestPositional then
    if 0 ≤ x.exponent then
      let n := x.exponent.toNat + 1
      let whole := ds.take n ++ List.replicate (n - ds.length) '0'
      let rest := ds.drop n
      String.ofList (whole ++ '.' :: (if rest.isEmpty then ['0'] else rest))
    else
      String.ofList ('0' :: '.' :: (List.replicate ((-x.exponent).toNat - 1) '0' ++ ds))
  else
    let mantissa := match ds with
      | d :: rest@(_ :: _) => d :: '.' :: rest
      | ds => ds
    let sign := if x.exponent < 0 then '-' else '+'
    String.ofList (mantissa ++ 'e' :: sign :: Nat.toDigits 10 x.exponent.natAbs)

end Scientific

/-- The written form of a finite double; nothing for the others. -/
def Binary64.render? (form : FloatForm) : Binary64 → Option String
  | .finite n m s =>
    let body := if m = 0 then "0.0" else (shortestDigits m s).render form
    some (if n then "-" ++ body else body)
  | _ => none

end SecretLayers
