import SecretLayers.Number.Decimal
/-!
Percent escapes in addresses.

Each part of an address has its own set of ASCII characters to escape; control characters
and everything beyond ASCII are always escaped, byte by byte.
-/
namespace SecretLayers.Url

/-- The bytes of a character in UTF-8. -/
def bytesOf (c : Char) : List Nat :=
  let n := c.toNat
  if n < 0x80 then [n]
  else if n < 0x800 then [0xC0 + n / 64, 0x80 + n % 64]
  else if n < 0x10000 then [0xE0 + n / 4096, 0x80 + n / 64 % 64, 0x80 + n % 64]
  else [0xF0 + n / 262144, 0x80 + n / 4096 % 64, 0x80 + n / 64 % 64, 0x80 + n % 64]

def upperHex (n : Nat) : Char := Char.ofNat (if n < 10 then 48 + n else 55 + n)

def escapeByte (b : Nat) : List Char := ['%', upperHex (b / 16), upperHex (b % 16)]

/-- The ASCII characters escaped in a part of an address, control characters apart. -/
abbrev EscapeSet := List Char

def fragmentSet : EscapeSet := [' ', '"', '<', '>', '\x60']

def pathSet : EscapeSet := fragmentSet ++ ['#', '?', '\x7b', '\x7d']

def userSet : EscapeSet := pathSet ++ ['/', ':', ';', '=', '@', '[', '\\', ']', '^', '|']

def querySet : EscapeSet := [' ', '"', '#', '<', '>']

/-- Addresses of the web escape the apostrophe in queries too. -/
def webQuerySet : EscapeSet := querySet ++ ['\'']

def needsEscape (set : EscapeSet) (c : Char) : Bool :=
  c.toNat < 0x20 || 0x7F ≤ c.toNat || set.contains c

def escapeChar (set : EscapeSet) (c : Char) : List Char :=
  if needsEscape set c then (bytesOf c).flatMap escapeByte else [c]

def escape (set : EscapeSet) (cs : List Char) : List Char := cs.flatMap (escapeChar set)

/-- The bytes of a text, each escape being the byte it stands for. A percent sign without
two hexadecimal digits stands for itself. -/
def unescape : List Char → List Nat
  | '%' :: a :: b :: rest =>
    match digitValue? 16 a, digitValue? 16 b with
    | some x, some y => (16 * x + y) :: unescape rest
    | _, _ => 0x25 :: unescape (a :: b :: rest)
  | c :: rest => bytesOf c ++ unescape rest
  | [] => []

/-- The characters of bytes in UTF-8, if they are such. -/
def decode? (bytes : List Nat) : Option (List Char) :=
  (String.fromUTF8? ⟨(bytes.map UInt8.ofNat).toArray⟩).map String.toList

/-! ## Small facts -/

theorem escape_of_plain {set : EscapeSet} {cs : List Char}
    (h : ∀ c ∈ cs, needsEscape set c = false) : escape set cs = cs := by
  induction cs with
  | nil => rfl
  | cons c cs ih =>
    have hc := h c List.mem_cons_self
    have ht := ih fun d hd => h d (List.mem_cons_of_mem _ hd)
    unfold escape at ht ⊢
    simp [escapeChar, hc, ht]

end SecretLayers.Url
