import SecretLayers.Text.Blank
import SecretLayers.Text.Lowercase
import SecretLayers.Url.Punycode
/-!
Host names in ASCII.

A name is lower-cased label by label. A label with other characters is written in the
encoding for such names, behind a mark, and a label that carries the mark already has to
be the encoding of such a label.
-/
namespace SecretLayers.Url.Name

/-- Characters that stand for the point between labels. -/
def isPoint (c : Char) : Bool := c == '.' || c == '。' || c == '．' || c == '｡'

/-- Characters that names are written without. -/
def isIgnored (c : Char) : Bool :=
  c == '\u00AD' || c == '\u200B' || c == '\u2060' || c == '\uFEFF' ||
    (0xFE00 ≤ c.toNat && c.toNat ≤ 0xFE0F)

/-- Wide forms of ASCII characters stand for those. -/
def narrow (c : Char) : Char :=
  if 0xFF01 ≤ c.toNat ∧ c.toNat ≤ 0xFF5E then Char.ofNat (c.toNat - 0xFEE0) else c

/-- The form of a label that is encoded. -/
def fold (label : List Char) : List Char :=
  (label.filter (!isIgnored ·)).flatMap fun c =>
    if narrow c = 'İ' then ['i', '\u0307'] else [Text.lowerByRuns (narrow c)]

def isAscii (c : Char) : Bool := c.toNat < 0x80

/-- Characters beyond ASCII that a label can have. -/
def isLetter (c : Char) : Bool :=
  isAscii c || Text.isPrintable c || Text.caseIgnorableRuns.holds c

def mark : List Char := "xn--".toList

/-- A folded label in ASCII. -/
def encodeLabel? (label : List Char) : Option (List Char) :=
  if label.all isAscii then
    if mark.isPrefixOf label then do
      let decoded ← Punycode.decode? (label.drop 4)
      if decoded.all isAscii ∨ fold decoded ≠ decoded ∨ !decoded.all isLetter then none
      else some label
    else some label
  else if label.all isLetter then (Punycode.encode? label).map (mark ++ ·)
  else none

/-- A host name in ASCII. -/
def toAscii? (name : List Char) : Option (List Char) := do
  let labels ← (Text.splitChars isPoint name).mapM fun label => encodeLabel? (fold label)
  some (['.'].intercalate labels)

end SecretLayers.Url.Name
