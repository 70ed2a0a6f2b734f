import Reroute.Text

/-!
Moments in universal time, in the Gregorian calendar extended to all years.
-/

namespace Reroute

structure Instant where
  year : Int
  month : Nat
  day : Nat
  hour : Nat
  minute : Nat
  second : Nat
  deriving DecidableEq, Repr

namespace Instant

def dayNames : List String :=
  ["Sunday", "Monday", "Tuesday", "Wednesday", "Thursday", "Friday", "Saturday"]

/-- How far the first day of each month moves the week, in years that begin in March. -/
def monthShifts : List Nat := [0, 3, 2, 5, 0, 3, 5, 1, 4, 6, 2, 4]

/-- The number of the day in its week, Sunday being zero. A year moves the week by one day, a
leap year by one more; January and February belong to the year before. -/
def weekday (t : Instant) : Nat :=
  let year := if t.month < 3 then t.year - 1 else t.year
  let days := year + year / 4 - year / 100 + year / 400 +
    (monthShifts.getD (t.month - 1) 0 : Nat) + (t.day : Nat)
  (days % 7).toNat

def weekdayName (t : Instant) : Text := (dayNames.getD t.weekday "").toList

def timeText (t : Instant) : Text :=
  Text.ofNatTwo t.hour ++ ':' :: Text.ofNatTwo t.minute ++ ':' :: Text.ofNatTwo t.second

end Instant

end Reroute
