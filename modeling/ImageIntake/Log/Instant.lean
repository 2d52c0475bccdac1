/-
  ImageIntake.Log.Instant

  Points in time as a calendar shows them, in universal time, and the moments that
  have a date at all.  Moments are counted in millionths of a second from the start
  of the year 1.
-/

import ImageIntake.Fault
import ImageIntake.Number.Power

namespace ImageIntake.Log

open ImageIntake.Number

/-! ## Dates and times -/

/-- A point in time. -/
structure Instant where
  year : Nat
  month : Nat
  day : Nat
  hour : Nat
  minute : Nat
  second : Nat
  microsecond : Nat
deriving DecidableEq, Repr

namespace Instant

/-- Digits filled with zeros on the left up to a width. -/
def padded (width n : Nat) : String :=
  let digits := Nat.toDigits 10 n
  String.ofList (List.replicate (width - digits.length) '0' ++ digits)

/-- The day, as digits alone; the year has no more of them than it needs. -/
def dayStamp (t : Instant) : String :=
  padded 1 t.year ++ padded 2 t.month ++ padded 2 t.day

/-- Date and time with the mark of universal time; a fraction of a second only where there is
one. -/
def print (t : Instant) : String :=
  padded 4 t.year ++ "-" ++ padded 2 t.month ++ "-" ++ padded 2 t.day ++ "T" ++
    padded 2 t.hour ++ ":" ++ padded 2 t.minute ++ ":" ++ padded 2 t.second ++
    (if t.microsecond = 0 then "" else "." ++ padded 6 t.microsecond) ++ "Z"

end Instant

/-! ## Moments -/

/-- The seconds of a day. -/
def daySeconds : Int := 86400

/-- The millionths of a second. -/
def secondMicros : Int := 1000000

/-- The days from the start of the year 1 to that of another year. -/
def daysBefore (year : Int) : Int :=
  let past := year - 1
  365 * past + past / 4 - past / 100 + past / 400

/-- The days of each month of a year. -/
def monthDays (year : Int) : List Int :=
  let leap := daysBefore (year + 1) - daysBefore year = 366
  [31, if leap then 29 else 28, 31, 30, 31, 30, 31, 31, 30, 31, 30, 31]

/-- The moment of a point in time. -/
def Instant.moment (t : Instant) : Int :=
  let days := daysBefore t.year + ((monthDays t.year).take (t.month - 1)).foldl (· + ·) 0 + (t.day - 1)
  ((days * daySeconds + (t.hour * 60 + t.minute) * 60 + t.second) * secondMicros) + t.microsecond

/-- The day of a moment. -/
def dayOf (moment : Int) : Int := moment / (daySeconds * secondMicros)

/-- The year of a day.  Four centuries have 146097 days, which are spread over the years almost
evenly. -/
def yearOf (day : Int) : Int :=
  let near := day * 400 / 146097 + 1
  if day < daysBefore near then near - 1
  else if daysBefore (near + 1) ≤ day then near + 1
  else near

/-- The last year of the calendar. -/
def lastYear : Int := 9999

/-- The fault of a moment that is beyond the calendar. -/
def dateFault? (moment : Int) : Option Fault :=
  let year := yearOf (dayOf moment)
  if year - 1900 < -(twoTo 31 : Int) ∨ (twoTo 31 : Int) ≤ year - 1900 then
    some (.numbered 75 "Value too large for defined data type")
  else if year < 1 ∨ lastYear < year then
    some (.value ("year " ++ toString year ++ " is out of range"))
  else none

end ImageIntake.Log
