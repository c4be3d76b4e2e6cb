import SecretLayers.Lease
/-!
Instants as dates and times.

Instants count from the start of the year 1970. Days are counted in eras of 400 years that
begin with March, so that a leap day ends its year.
-/
namespace SecretLayers.Timestamp

structure Date where
  year : Nat
  month : Nat
  day : Nat
  deriving DecidableEq, Repr

/-- Days from the first of March of the year 0 to the start of 1970. -/
def epochDay : Nat := 719468

def daysPerEra : Nat := 146097

/-- The date of a day counted from the start of 1970. -/
def dateOf (days : Nat) : Date :=
  let z := days + epochDay
  let era := z / daysPerEra
  let dayOfEra := z % daysPerEra
  let yearOfEra := (dayOfEra - dayOfEra / 1460 + dayOfEra / 36524 - dayOfEra / 146096) / 365
  let dayOfYear := dayOfEra - (365 * yearOfEra + yearOfEra / 4 - yearOfEra / 100)
  let shifted := (5 * dayOfYear + 2) / 153
  let month := if shifted < 10 then shifted + 3 else shifted - 9
  { year := 400 * era + yearOfEra + (if month ≤ 2 then 1 else 0)
    month
    day := dayOfYear - (153 * shifted + 2) / 5 + 1 }

/-- A number with zeros in front, up to a width. -/
def padded (width n : Nat) : String :=
  let ds := Nat.toDigits 10 n
  String.ofList (List.replicate (width - ds.length) '0' ++ ds)

/-- The fraction of a second in as many groups of three digits as it needs. -/
def fraction (nanos : Nat) : String :=
  if nanos = 0 then ""
  else if nanos % Nat.pow 10 6 = 0 then "." ++ padded 3 (nanos / Nat.pow 10 6)
  else if nanos % Nat.pow 10 3 = 0 then "." ++ padded 6 (nanos / Nat.pow 10 3)
  else "." ++ padded 9 nanos

/-- Date, time and the offset from universal time, which is none. -/
def render (i : Instant) : String :=
  let seconds := i / Nat.pow 10 9
  let date := dateOf (seconds / 86400)
  padded 4 date.year ++ "-" ++ padded 2 date.month ++ "-" ++ padded 2 date.day ++ "T" ++
    padded 2 (seconds / 3600 % 24) ++ ":" ++ padded 2 (seconds / 60 % 60) ++ ":" ++
    padded 2 (seconds % 60) ++ fraction (i % Nat.pow 10 9) ++ "+00:00"


end SecretLayers.Timestamp
