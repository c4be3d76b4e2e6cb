import SecretLayers.Number.Decimal
/-!
What plain scalars of YAML denote.

A plain scalar may spell an absent value, a flag or a number; everything else is text.
Digits behind a leading zero are text, and so are numbers too great to be a finite double.
-/
namespace SecretLayers.Yaml

inductive Meaning where
  | absent
  | flag (b : Bool)
  /-- An integer from the least signed to the greatest unsigned one of 64 bits. -/
  | integer (i : Int)
  /-- An integer beyond that which still fits 128 bits. -/
  | vast
  | double (x : Binary64)
  | text
  deriving DecidableEq, Repr

def isNull (s : String) : Bool := ["~", "null", "Null", "NULL"].contains s

def flag? (s : String) : Option Bool :=
  if ["true", "True", "TRUE"].contains s then some true
  else if ["false", "False", "FALSE"].contains s then some false
  else none

def dropSign : List Char → List Char
  | '+' :: cs => cs
  | '-' :: cs => cs
  | cs => cs

/-- Several digits of which the first is a zero, after an optional sign. -/
def hasLeadingZero (cs : List Char) : Bool :=
  match dropSign cs with
  | '0' :: d :: ds => (d :: ds).all Char.isDigit
  | _ => false

/-- The bases that a zero and a letter announce. -/
def basePrefixes : List (Char × Nat) := [('x', 16), ('o', 8), ('b', 2)]

/-- Digits of a base, at least one and none else; the value is not bounded by it. -/
def digitsIn? (base : Nat) (ds : List Char) : Option Nat :=
  if ds.isEmpty then none
  else ds.foldl (fun n d => do return base * (← n) + (← digitValue? base d)) (some 0)

/-- The magnitude of an integer after its sign. -/
def magnitude? (cs : List Char) : Option Nat :=
  match cs with
  | '0' :: letter :: ds =>
    match basePrefixes.lookup letter with
    | some base => digitsIn? base ds
    | none => none
  | ds => digitsIn? 10 ds

/-- An integer of any size. -/
def integer? (cs : List Char) : Option Int :=
  if hasLeadingZero cs then none
  else match cs with
    | '+' :: cs => (magnitude? cs).map Int.ofNat
    | '-' :: cs => (magnitude? cs).map fun n => -(n : Int)
    | cs => (magnitude? cs).map Int.ofNat

/-- An integer without a minus sign. -/
def natural? (cs : List Char) : Option Nat :=
  if cs.head? = some '-' then none else (integer? cs).map Int.toNat

/-- Spellings of the doubles that are not finite. -/
def specialDoubles : List (String × Binary64) :=
  [(".inf", .infinity false), (".Inf", .infinity false), (".INF", .infinity false),
    ("+.inf", .infinity false), ("+.Inf", .infinity false), ("+.INF", .infinity false),
    ("-.inf", .infinity true), ("-.Inf", .infinity true), ("-.INF", .infinity true),
    (".nan", .nan false), (".NaN", .nan false), (".NAN", .nan false)]

/-- A double: a special spelling, or a decimal that is finite. -/
def double? (s : String) : Option Binary64 :=
  match specialDoubles.lookup s with
  | some x => some x
  | none => (readDouble? s).filter Binary64.isFinite

/-- The meaning of an integer by its size; nothing beyond 128 bits. -/
def integerMeaning? (i : Int) : Option Meaning :=
  if -(Int.pow 2 63) ≤ i ∧ i < Int.pow 2 64 then some (.integer i)
  else if -(Int.pow 2 127) ≤ i ∧ i < Int.pow 2 128 then some .vast
  else none

/-- An integer, as far as it has a meaning as one. -/
def integer (s : String) : Option Meaning := (integer? s.toList).bind integerMeaning?

/-- A double, unless a leading zero makes the spelling text. -/
def doubleMeaning? (s : String) : Option Meaning :=
  if hasLeadingZero s.toList then none else (double? s).map .double

/-- What a plain scalar denotes. -/
def meaning (s : String) : Meaning :=
  if s = "" ∨ isNull s then .absent
  else match flag? s with
    | some b => .flag b
    | none => ((integer s).or (doubleMeaning? s)).getD .text

end SecretLayers.Yaml
