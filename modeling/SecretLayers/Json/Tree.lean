import SecretLayers.Json.Basic
/-!
What a JSON text says.

A tree keeps members in the written order, repeated ones included, and numbers as their
digits. Parts of an answer that nobody reads only have to be well formed; a value is
checked (numbers within range, no lone surrogate, nesting not too deep) when it is read.
-/
namespace SecretLayers.Json

/-- A number as written: digits before and after the point, and an exponent. -/
structure Numeral where
  negative : Bool
  whole : List Char
  fraction : Option (List Char)
  exponent : Option (Bool × List Char)
  deriving DecidableEq, Repr

/-- A JSON text. A string with an escape for a lone surrogate has no value. -/
inductive Tree where
  | null
  | bool (b : Bool)
  | numeral (n : Numeral)
  | string (s : Option String)
  | array (items : List Tree)
  | object (members : List (Option String × Tree))
  deriving Repr, Inhabited

/-! ## Numbers -/

/-- Digits that still fit 64 bits are taken into the coefficient; the first that does not
fit, and all after it, only count. -/
def takeWhole (n : Nat) (dropped : Nat) : List Char → Nat × Nat
  | [] => (n, dropped)
  | c :: cs =>
    let next := 10 * n + (c.toNat - 48)
    if dropped = 0 ∧ next ≤ maxUnsigned64 then takeWhole next 0 cs
    else takeWhole n (dropped + 1) cs

/-- Digits after the point, taken while the coefficient fits 64 bits. -/
def takeFraction (n : Nat) (e : Int) : List Char → Nat × Int
  | [] => (n, e)
  | c :: cs =>
    let next := 10 * n + (c.toNat - 48)
    if next ≤ maxUnsigned64 then takeFraction next (e - 1) cs else (n, e)

/-- The double nearest to a power of ten from 0 to 308. -/
def powerOfTen (k : Nat) : Binary64 := .ofNat (Nat.pow 10 k)

/-- A coefficient scaled by a power of ten, in steps of at most 308, each step rounded.
Four steps bring any coefficient of 64 bits to zero. -/
def scale? : Nat → Binary64 → Int → Option Binary64
  | 0, f, _ => some f
  | steps + 1, f, e =>
    if e.natAbs ≤ 308 then
      let f := if 0 ≤ e then f.mul (powerOfTen e.natAbs) else f.div (powerOfTen e.natAbs)
      if f.isFinite then some f else none
    else if f.units = 0 then some f
    else if 0 ≤ e then none
    else scale? steps (f.div (powerOfTen 308)) (e + 308)

namespace Numeral

/-- The double of a numeral: the leading digits that fit 64 bits, scaled. -/
def double? (n : Numeral) : Option Binary64 := do
  let (c, dropped) := takeWhole 0 0 n.whole
  let (c, e) := takeFraction c dropped (n.fraction.getD [])
  let (negative, ds) := n.exponent.getD (false, [])
  let x := digitsValue ds
  let f ←
    if Nat.pow 2 31 - 1 < x then (if c ≠ 0 ∧ !negative then none else some .zero)
    else scale? 4 (.ofNat c) (if negative then e - x else e + x)
  some (if n.negative then f.neg else f)

/-- An integer of 64 bits if written as one and in range; otherwise a double. -/
def number? (n : Numeral) : Option Number :=
  if n.fraction.isNone ∧ n.exponent.isNone then
    let v := digitsValue n.whole
    if n.negative then
      if 0 < v ∧ v ≤ Nat.pow 2 63 then some (.negative v) else n.double?.map .double
    else if v ≤ maxUnsigned64 then some (.natural v)
    else n.double?.map .double
  else n.double?.map .double

end Numeral

/-! ## Values -/

/-- How deep containers may be nested in a value that is read. -/
def depthLimit : Nat := 127

namespace Tree

mutual

/-- The value of a tree, with room for so many levels of containers. -/
def value? (room : Nat) : Tree → Option Json
  | .null => some .null
  | .bool b => some (.bool b)
  | .numeral n => n.number?.map .number
  | .string s => s.map .string
  | .array items => if room = 0 then none else (values? (room - 1) items).map .array
  | .object members => if room = 0 then none else (members? (room - 1) members).map .ofMembers

def values? (room : Nat) : List Tree → Option (List Json)
  | [] => some []
  | t :: ts => do
    let v ← t.value? room
    let vs ← values? room ts
    some (v :: vs)

def members? (room : Nat) : List (Option String × Tree) → Option (List (String × Json))
  | [] => some []
  | (name, t) :: ts => do
    let name ← name
    let v ← t.value? room
    let vs ← members? room ts
    some ((name, v) :: vs)

end

end Tree

/-! ## Reading -/

def isSpace (c : Char) : Bool := c == ' ' || c == '\n' || c == '\t' || c == '\r'

def skipSpace (cs : List Char) : List Char := cs.dropWhile isSpace

def hexValue? (cs : List Char) : Option Nat :=
  cs.foldl (fun n c => do return 16 * (← n) + (← digitValue? 16 c)) (some 0)

/-- Four hexadecimal digits. -/
def readUnit? (cs : List Char) : Option (Nat × List Char) :=
  let ds := cs.take 4
  if ds.length = 4 then (hexValue? ds).map fun n => (n, cs.drop 4) else none

/-- The character that an escape letter other than `u` stands for. -/
def escaped? : Char → Option Char
  | '"' => some '"'
  | '\\' => some '\\'
  | '/' => some '/'
  | 'b' => some '\x08'
  | 'f' => some '\x0c'
  | 'n' => some '\n'
  | 'r' => some '\r'
  | 't' => some '\t'
  | _ => none

/-- The rest of a string after its opening quote: its characters in reverse, and whether
every escape denoted a character. -/
def readString? : Nat → List Char → Bool → List Char → Option (Option String × List Char)
  | 0, _, _, _ => none
  | fuel + 1, acc, sound, cs =>
    match cs with
    | [] => none
    | '"' :: cs => some (if sound then some (String.ofList acc.reverse) else none, cs)
    | '\\' :: 'u' :: cs => do
      let (unit, cs) ← readUnit? cs
      if 0xD800 ≤ unit ∧ unit < 0xDC00 then
        match cs with
        | '\\' :: 'u' :: rest =>
          let (low, rest) ← readUnit? rest
          if 0xDC00 ≤ low ∧ low < 0xE000 then
            let c := Char.ofNat (0x10000 + (unit - 0xD800) * 0x400 + (low - 0xDC00))
            readString? fuel (c :: acc) sound rest
          else readString? fuel acc false cs
        | _ => readString? fuel acc false cs
      else if 0xDC00 ≤ unit ∧ unit < 0xE000 then readString? fuel acc false cs
      else readString? fuel (Char.ofNat unit :: acc) sound cs
    | '\\' :: c :: cs => do
      let c ← escaped? c
      readString? fuel (c :: acc) sound cs
    | c :: cs => if c.toNat < 0x20 then none else readString? fuel (c :: acc) sound cs

/-- Digits of which there must be one. -/
def readDigits? (cs : List Char) : Option (List Char × List Char) :=
  let ds := cs.takeWhile Char.isDigit
  if ds.isEmpty then none else some (ds, cs.dropWhile Char.isDigit)

def readFraction? : List Char → Option (Option (List Char) × List Char)
  | '.' :: cs => (readDigits? cs).map fun (ds, cs) => (some ds, cs)
  | cs => some (none, cs)

def readPower? : List Char → Option (Option (Bool × List Char) × List Char)
  | c :: cs =>
    if c = 'e' ∨ c = 'E' then
      let (negative, cs) := match cs with
        | '-' :: cs => (true, cs)
        | '+' :: cs => (false, cs)
        | cs => (false, cs)
      (readDigits? cs).map fun (ds, cs) => (some (negative, ds), cs)
    else some (none, c :: cs)
  | [] => some (none, [])

/-- A number; a leading zero stands alone. -/
def readNumeral? (negative : Bool) (cs : List Char) : Option (Tree × List Char) := do
  let (whole, cs) ← readDigits? cs
  if whole.head? = some '0' ∧ 1 < whole.length then none
  else
    let (fraction, cs) ← readFraction? cs
    let (exponent, cs) ← readPower? cs
    some (.numeral { negative, whole, fraction, exponent }, cs)

/-- Drops a fixed word. -/
def dropWord? : List Char → List Char → Option (List Char)
  | [], cs => some cs
  | w :: ws, c :: cs => if w = c then dropWord? ws cs else none
  | _ :: _, [] => none

mutual

/-- A value after blanks. The first argument bounds the number of calls. -/
def readTree? : Nat → List Char → Option (Tree × List Char)
  | 0, _ => none
  | fuel + 1, cs =>
    match skipSpace cs with
    | [] => none
    | '\x7b' :: cs =>
      match skipSpace cs with
      | '\x7d' :: cs => some (.object [], cs)
      | cs => (readMembers? fuel cs).map fun (ms, cs) => (.object ms, cs)
    | '[' :: cs =>
      match skipSpace cs with
      | ']' :: cs => some (.array [], cs)
      | cs => (readItems? fuel cs).map fun (ts, cs) => (.array ts, cs)
    | '"' :: cs => (readString? (cs.length + 1) [] true cs).map fun (s, cs) => (.string s, cs)
    | '-' :: cs => readNumeral? true cs
    | c :: cs =>
      if c.isDigit then readNumeral? false (c :: cs)
      else if c = 't' then (dropWord? "rue".toList cs).map fun cs => (.bool true, cs)
      else if c = 'f' then (dropWord? "alse".toList cs).map fun cs => (.bool false, cs)
      else if c = 'n' then (dropWord? "ull".toList cs).map fun cs => (.null, cs)
      else none

/-- Items up to the closing bracket. -/
def readItems? : Nat → List Char → Option (List Tree × List Char)
  | 0, _ => none
  | fuel + 1, cs => do
    let (t, cs) ← readTree? fuel cs
    match skipSpace cs with
    | ',' :: cs =>
      let (ts, cs) ← readItems? fuel cs
      some (t :: ts, cs)
    | ']' :: cs => some ([t], cs)
    | _ => none

/-- Members up to the closing brace. -/
def readMembers? : Nat → List Char → Option (List (Option String × Tree) × List Char)
  | 0, _ => none
  | fuel + 1, cs =>
    match skipSpace cs with
    | '"' :: cs => do
      let (name, cs) ← readString? (cs.length + 1) [] true cs
      match skipSpace cs with
      | ':' :: cs =>
        let (t, cs) ← readTree? fuel cs
        match skipSpace cs with
        | ',' :: cs =>
          let (ms, cs) ← readMembers? fuel cs
          some ((name, t) :: ms, cs)
        | '\x7d' :: cs => some ([(name, t)], cs)
        | _ => none
      | _ => none
    | _ => none

end

/-- The tree of a whole text. -/
def Tree.parse? (text : String) : Option Tree := do
  let cs := text.toList
  let (t, rest) ← readTree? (2 * cs.length + 2) cs
  if (skipSpace rest).isEmpty then some t else none

/-- The value of a whole text. -/
def parse? (text : String) : Option Json := do
  (← Tree.parse? text).value? depthLimit

end SecretLayers.Json
