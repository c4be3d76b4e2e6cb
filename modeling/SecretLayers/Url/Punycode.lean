/-!
The encoding of labels with characters beyond ASCII.

The ASCII characters come first, then a hyphen if there are any, then the others as
distances: how many steps of the decoder pass until the next of them is inserted. Each
distance is a number with digits of a base that adapts to those before it.
-/
namespace SecretLayers.Url.Punycode

/-- The bias after a distance, given how many characters there are by then. -/
def adapt (delta count : Nat) (first : Bool) : Nat :=
  let delta := if first then delta / 700 else delta / 2
  let rec reduce : Nat → Nat → Nat → Nat
    | 0, k, d => k + 36 * d / (d + 38)
    | fuel + 1, k, d => if 455 < d then reduce fuel (k + 36) (d / 35) else k + 36 * d / (d + 38)
  reduce 8 0 (delta + delta / count)

/-- The least value of a digit that is not the last one of its number. -/
def limit (k bias : Nat) : Nat := if k ≤ bias then 1 else min 26 (k - bias)

def digit (n : Nat) : Char := Char.ofNat (if n < 26 then 97 + n else 22 + n)

def digitValue? (c : Char) : Option Nat :=
  let n := c.toNat
  if 97 ≤ n ∧ n ≤ 122 then some (n - 97)
  else if 65 ≤ n ∧ n ≤ 90 then some (n - 65)
  else if 48 ≤ n ∧ n ≤ 57 then some (n - 22)
  else none

/-- The digits of a distance. -/
def distance (bias : Nat) : Nat → Nat → Nat → List Char
  | 0, _, _ => []
  | fuel + 1, k, q =>
    let t := limit k bias
    if q < t then [digit q]
    else digit (t + (q - t) % (36 - t)) :: distance bias fuel (k + 36) ((q - t) / (36 - t))

structure State where
  delta : Nat
  bias : Nat
  handled : Nat
  out : List Char

/-- Passes the characters of a label once, writing the distance wherever one of the code
point `n` stands. -/
def passLabel (n basic : Nat) (s : State) (label : List Char) : State :=
  label.foldl
    (fun s c =>
      if c.toNat < n then { s with delta := s.delta + 1 }
      else if c.toNat = n then
        { delta := 0, bias := adapt s.delta (s.handled + 1) (s.handled = basic),
          handled := s.handled + 1, out := s.out ++ distance s.bias 16 36 s.delta }
      else s)
    s

/-- Code points in ascending order, each once. -/
def codePoints (cs : List Char) : List Nat :=
  ((cs.map Char.toNat).mergeSort (· ≤ ·)).eraseDups

def encode? (label : List Char) : Option (List Char) :=
  let basic := label.filter fun c => c.toNat < 0x80
  let start : State :=
    { delta := 0, bias := 72, handled := basic.length,
      out := if basic.isEmpty then [] else basic ++ ['-'] }
  let others := codePoints (label.filter fun c => 0x80 ≤ c.toNat)
  let (_, s) := others.foldl
    (fun (before, s) n =>
      let s := { s with delta := s.delta + (n - before) * (s.handled + 1) }
      let s := passLabel n basic.length s label
      (n + 1, { s with delta := s.delta + 1 }))
    (0x80, start)
  some s.out

/-- A distance, from the weight and the position of its next digit on. -/
def readDistance? (bias : Nat) : Nat → Nat → Nat → Nat → List Char → Option (Nat × List Char)
  | 0, _, _, _, _ => none
  | _ + 1, _, _, _, [] => none
  | fuel + 1, k, weight, sum, c :: cs => do
    let d ← digitValue? c
    let sum := sum + d * weight
    if Nat.pow 2 32 ≤ sum then none
    let t := limit k bias
    if d < t then some (sum, cs) else readDistance? bias fuel (k + 36) (weight * (36 - t)) sum cs

/-- Inserts characters by their distances. -/
def insertAll? : Nat → Nat → Nat → Nat → List Char → List Char → Option (List Char)
  | 0, _, _, _, _, _ => none
  | _ + 1, _, _, _, out, [] => some out
  | fuel + 1, n, i, bias, out, cs => do
    let (delta, cs) ← readDistance? bias 16 36 1 0 cs
    let count := out.length + 1
    let n := n + (i + delta) / count
    let place := (i + delta) % count
    if n.isValidChar then
      insertAll? fuel n (place + 1) (adapt delta count (i = 0))
        (out.take place ++ Char.ofNat n :: out.drop place) cs
    else none

/-- The characters before the last hyphen, and those after it. -/
def splitBasic (cs : List Char) : List Char × List Char :=
  let after := (cs.reverse.takeWhile (· ≠ '-')).reverse
  if after.length = cs.length then ([], cs)
  else (cs.take (cs.length - after.length - 1), after)

def decode? (label : List Char) : Option (List Char) :=
  let (basic, rest) := splitBasic label
  insertAll? (rest.length + 1) 0x80 0 72 basic rest

end SecretLayers.Url.Punycode
