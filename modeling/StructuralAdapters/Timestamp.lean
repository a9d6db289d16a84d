/-!
# Points in time

* `Timestamp`: seconds since 1970 began, and nanoseconds within the second;
* `Timestamp.earliest`: the first point in time that is represented;
* `Timestamp.civil`: the date of a day number in the Gregorian calendar;
* `Timestamp.display`: date, time and offset, as in `2023-11-14T22:13:20.123+00:00`.

A nanosecond part of a thousand million or more belongs to a leap second, which is shown as the
sixtieth second of its minute.
-/

namespace StructuralAdapters

/-- A point in time. -/
structure Timestamp where
  /-- Seconds since 1970 began, in coordinated universal time. -/
  seconds : Int
  /-- Nanoseconds within the second; from `10 ^ 9` on, within the leap second that follows it. -/
  nanoseconds : Nat
  deriving DecidableEq

namespace Timestamp

/-- The first point in time that is represented, the start of the year -262143. -/
def earliest : Timestamp := ⟨-8334601228800, 0⟩

/-- Year, month and day of a day number, where day 0 is the first of January 1970.  Days are counted
in eras of 400 years, and within an era in years that begin in March. -/
def civil (day : Int) : Int × Nat × Nat :=
  let shifted := day + 719468
  let era := shifted.fdiv 146097
  let dayOfEra := (shifted.fmod 146097).toNat
  let yearOfEra :=
    (dayOfEra - dayOfEra / 1460 + dayOfEra / 36524 - dayOfEra / 146096) / 365
  let dayOfYear := dayOfEra - (365 * yearOfEra + yearOfEra / 4 - yearOfEra / 100)
  let marchMonth := (5 * dayOfYear + 2) / 153
  let dayOfMonth := dayOfYear - (153 * marchMonth + 2) / 5 + 1
  let month := if marchMonth < 10 then marchMonth + 3 else marchMonth - 9
  let year := era * 400 + yearOfEra + (if month ≤ 2 then 1 else 0)
  (year, month, dayOfMonth)

/-- The decimal digits of `n`, filled up with zeros to `width`. -/
def padded (width n : Nat) : String :=
  String.ofList ((Nat.toDigits 10 n).leftpad width '0')

/-- Years 0 to 9999 have four digits; any other year has a sign and at least four. -/
def displayYear (year : Int) : String :=
  if 0 ≤ year ∧ year ≤ 9999 then padded 4 year.toNat
  else (if year < 0 then "-" else "+") ++ padded 4 year.natAbs

/-- The fraction of a second in three, six or nine digits, as few as are exact. -/
def displayFraction (nanoseconds : Nat) : String :=
  if nanoseconds = 0 then ""
  else if nanoseconds % 1000000 = 0 then "." ++ padded 3 (nanoseconds / 1000000)
  else if nanoseconds % 1000 = 0 then "." ++ padded 6 (nanoseconds / 1000)
  else "." ++ padded 9 nanoseconds

/-- Date, time and offset. -/
def display (t : Timestamp) : String :=
  let (year, month, day) := civil (t.seconds.fdiv 86400)
  let ofDay := (t.seconds.fmod 86400).toNat
  let leap := decide (1000000000 ≤ t.nanoseconds)
  let second := ofDay % 60 + (if leap then 1 else 0)
  let nanoseconds := if leap then t.nanoseconds - 1000000000 else t.nanoseconds
  displayYear year ++ "-" ++ padded 2 month ++ "-" ++ padded 2 day ++ "T"
    ++ padded 2 (ofDay / 3600) ++ ":" ++ padded 2 (ofDay / 60 % 60) ++ ":" ++ padded 2 second
    ++ displayFraction nanoseconds ++ "+00:00"

end Timestamp

end StructuralAdapters
