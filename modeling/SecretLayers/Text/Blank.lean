/-!
Blank characters, and cutting them from the ends of a text.

Settings, names and answers of the store are all compared after trimming, so the
one set of blank characters (the Unicode property White_Space) lives here.
-/
namespace SecretLayers.Text

/-- A character with the Unicode property White_Space. -/
def isBlank (c : Char) : Bool :=
  let n := c.toNat
  (9 ≤ n && n ≤ 13) || n == 0x20 || n == 0x85 || n == 0xA0 || n == 0x1680 ||
    (0x2000 ≤ n && n ≤ 0x200A) || n == 0x2028 || n == 0x2029 || n == 0x202F ||
    n == 0x205F || n == 0x3000

/-- Cuts the characters satisfying `p` from both ends. -/
def strip (p : Char → Bool) (cs : List Char) : List Char :=
  ((cs.dropWhile p).reverse.dropWhile p).reverse

def trim (s : String) : String :=
  String.ofList (strip isBlank s.toList)

def trimSlashes (s : String) : String :=
  String.ofList (strip (· == '/') s.toList)

def dropSlashes (s : String) : String :=
  String.ofList (s.toList.dropWhile (· == '/'))

/-- Empty, or blank throughout. -/
def isBlankText (s : String) : Bool :=
  s.toList.all isBlank

/-- The trimmed text, unless nothing is left of it. -/
def trimmed? (s : String) : Option String :=
  if isBlankText s then none else some (trim s)

/-- Lower case of the letters `A` to `Z` alone. -/
def lowerAscii (s : String) : String :=
  String.ofList (s.toList.map Char.toLower)

/-- Upper case of the letters `a` to `z` alone. -/
def upperAscii (s : String) : String :=
  String.ofList (s.toList.map Char.toUpper)

/-! ## Splitting -/

/-- The pieces between the characters satisfying `p`; always at least one. -/
def splitChars (p : Char → Bool) : List Char → List (List Char)
  | [] => [[]]
  | c :: cs =>
    if p c then [] :: splitChars p cs
    else match splitChars p cs with
      | [] => [[c]]
      | piece :: rest => (c :: piece) :: rest

def splitAt (separator : Char) (s : String) : List String :=
  (splitChars (· == separator) s.toList).map String.ofList

/-! ## Small facts -/

theorem splitChars_ne_nil (p : Char → Bool) (cs : List Char) : splitChars p cs ≠ [] := by
  cases cs with
  | nil => simp [splitChars]
  | cons c cs =>
    simp only [splitChars]
    split
    · simp
    · split <;> simp

end SecretLayers.Text
