/-!
Text out of bytes that may not be UTF-8.

The longest part of a character that could still have become one, and any byte that cannot
begin a character, is read as one replacement character.
-/
namespace SecretLayers.Text

/-- A character of which some bytes are still missing: how many, the bounds of the next
one, and the value so far. -/
structure Unfinished where
  missing : Nat
  low : Nat
  high : Nat
  value : Nat

def replacement : Char := '\uFFFD'

/-- A byte where a character begins: what is complete, or what has begun. -/
def beginChar (b : Nat) : List Char × Option Unfinished :=
  if b < 0x80 then ([Char.ofNat b], none)
  else if 0xC2 ≤ b ∧ b ≤ 0xDF then ([], some ⟨1, 0x80, 0xBF, b % 0x20⟩)
  else if 0xE0 ≤ b ∧ b ≤ 0xEF then
    ([], some ⟨2, if b = 0xE0 then 0xA0 else 0x80, if b = 0xED then 0x9F else 0xBF, b % 0x10⟩)
  else if 0xF0 ≤ b ∧ b ≤ 0xF4 then
    ([], some ⟨3, if b = 0xF0 then 0x90 else 0x80, if b = 0xF4 then 0x8F else 0xBF, b % 0x08⟩)
  else ([replacement], none)

/-- One byte more. -/
def readByte (b : Nat) : Option Unfinished → List Char × Option Unfinished
  | none => beginChar b
  | some u =>
    if u.low ≤ b ∧ b ≤ u.high then
      let value := u.value * 64 + b % 64
      if u.missing ≤ 1 then ([Char.ofNat value], none)
      else ([], some ⟨u.missing - 1, 0x80, 0xBF, value⟩)
    else
      let (cs, u) := beginChar b
      (replacement :: cs, u)

def decodeLossy : Option Unfinished → List UInt8 → List Char
  | none, [] => []
  | some _, [] => [replacement]
  | u, b :: bs =>
    let (cs, u) := readByte b.toNat u
    cs ++ decodeLossy u bs

/-- The text of bytes. -/
def ofBytesLossy (bytes : List UInt8) : String := String.ofList (decodeLossy none bytes)

end SecretLayers.Text
