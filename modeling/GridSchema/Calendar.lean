import GridSchema.Data.Double

/-! Moments of time and their dates in the proleptic Gregorian calendar. -/

namespace GridSchema

/-- A moment in UTC: seconds since the start of 1970 and nanoseconds. In a leap second the
nanoseconds count from a second earlier and exceed `10 ^ 9`. -/
structure Moment where
  seconds : Int
  nanoseconds : Nat
  deriving DecidableEq, Repr

namespace Calendar

/-- Year, month and day of a day counted from the first of January 1970. Years are counted from
March, in eras of 400 years. -/
def dateOfDay (day : Int) : Int × Nat × Nat :=
  let shifted := day + 719468
  let era := shifted / 146097
  let dayOfEra := (shifted % 146097).toNat
  let yearOfEra := (dayOfEra - dayOfEra / 1460 + dayOfEra / 36524 - dayOfEra / 146096) / 365
  let dayOfYear := dayOfEra - (365 * yearOfEra + yearOfEra / 4 - yearOfEra / 100)
  let marchMonth := (5 * dayOfYear + 2) / 153
  let dayOfMonth := dayOfYear - (153 * marchMonth + 2) / 5 + 1
  let month := if marchMonth < 10 then marchMonth + 3 else marchMonth - 9
  let year := (yearOfEra : Int) + era * 400 + (if month ≤ 2 then 1 else 0)
  (year, month, dayOfMonth)

def padded (width n : Nat) : String :=
  let digits := toString n
  String.ofList (List.replicate (width - digits.length) '0') ++ digits

/-- A year with four digits, and with a sign if it lies outside 0 to 9999. -/
def yearText (year : Int) : String :=
  if 0 ≤ year ∧ year ≤ 9999 then padded 4 year.toNat
  else (if year < 0 then "-" else "+") ++ padded 4 year.natAbs

def fractionText (nanoseconds : Nat) : String :=
  if nanoseconds = 0 then ""
  else if nanoseconds % 1000000 = 0 then "." ++ padded 3 (nanoseconds / 1000000)
  else if nanoseconds % 1000 = 0 then "." ++ padded 6 (nanoseconds / 1000)
  else "." ++ padded 9 nanoseconds

end Calendar

open Calendar in
/-- A moment as RFC 3339 writes it in UTC. -/
def Moment.text (moment : Moment) : String :=
  let (year, month, day) := dateOfDay (moment.seconds / 86400)
  let second := (moment.seconds % 86400).toNat
  let leap := moment.nanoseconds / 1000000000
  yearText year ++ "-" ++ padded 2 month ++ "-" ++ padded 2 day ++ "T" ++
    padded 2 (second / 3600) ++ ":" ++ padded 2 (second / 60 % 60) ++ ":" ++
    padded 2 (second % 60 + leap) ++ fractionText (moment.nanoseconds % 1000000000) ++ "Z"

/-- Nanoseconds from one moment to another. A leap second of the earlier moment's minute counts when
the time of day goes on past it, and one of the later moment's only up to its own nanoseconds. -/
def Moment.nanosecondsTo (start stop : Moment) : Int :=
  let startOfDay := start.seconds % 86400
  let stopOfDay := stop.seconds % 86400
  let leap : Int :=
    if startOfDay < stopOfDay ∧ 1000000000 ≤ start.nanoseconds then 1
    else if stopOfDay < startOfDay ∧ 1000000000 ≤ stop.nanoseconds then -1
    else 0
  (stop.seconds - start.seconds + leap) * 1000000000 +
    ((stop.nanoseconds : Int) - start.nanoseconds)

/-- Whole milliseconds from one moment to another, rounded toward zero. -/
def Moment.millisecondsTo (start stop : Moment) : Int :=
  (start.nanosecondsTo stop).tdiv 1000000

/-- Milliseconds as seconds, both to the precision of a number of 53 bits. -/
def secondsOf (milliseconds : Nat) : Double :=
  (Double.nearest milliseconds 1).divide 1000

def decimalText (places units : Nat) : String :=
  let scale := Nat.pow 10 places
  toString (units / scale) ++ "." ++
    (if places = 0 then "0" else Calendar.padded places (units % scale))

def signText (n : Int) : String :=
  if n < 0 then "-" else ""

/-- Milliseconds as seconds, with at least one decimal and at most three, as few as are read as the
same number. -/
def secondsText (milliseconds : Int) : String :=
  let (places, units) := ((secondsOf milliseconds.natAbs).shortest? 3).getD (3, milliseconds.natAbs)
  signText milliseconds ++ decimalText places units

def roundedSecondsText (milliseconds : Int) : String :=
  signText milliseconds ++ decimalText 2 ((secondsOf milliseconds.natAbs).rounded 2)

end GridSchema
