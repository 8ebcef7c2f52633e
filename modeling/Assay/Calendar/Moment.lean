/-!
Moments and dates. A moment is counted in seconds from the beginning of 1970 in Greenwich; a date is what a
calendar on a wall shows. The days of all years follow one rule, before it was made as well.
-/

namespace Assay

/-- A moment, in seconds since the beginning of 1970 and parts of one second. -/
structure Moment where
  seconds : Int
  nanos : Nat := 0
deriving DecidableEq, Repr

namespace Moment

def ofMicros (micros : Nat) : Moment := { seconds := micros / 1000000, nanos := micros % 1000000 * 1000 }

def ofNanos (nanos : Int) : Moment :=
  { seconds := Int.fdiv nanos 1000000000, nanos := (Int.fmod nanos 1000000000).toNat }

def total (moment : Moment) : Int := moment.seconds * 1000000000 + moment.nanos

end Moment

namespace Calendar

/-- The year, the month and the day of a number of days since the beginning of 1970. Years are counted from March
on, in groups of four hundred. -/
def dateOf (days : Int) : Int × Nat × Nat :=
  let shifted := days + 719468
  let era := Int.fdiv shifted 146097
  let day := (shifted - era * 146097).toNat
  let year := (day - day / 1460 + day / 36524 - day / 146096) / 365
  let inYear := day - (365 * year + year / 4 - year / 100)
  let month := (5 * inYear + 2) / 153
  let date := inYear - (153 * month + 2) / 5 + 1
  let number := if month < 10 then month + 3 else month - 9
  (year + era * 400 + (if number ≤ 2 then 1 else 0), number, date)

def daysTo (year : Int) (month day : Nat) : Int :=
  let shifted := if month ≤ 2 then year - 1 else year
  let era := Int.fdiv shifted 400
  let inEra := (shifted - era * 400).toNat
  let inYear := (153 * (if 2 < month then month - 3 else month + 9) + 2) / 5 + day - 1
  era * 146097 + ((inEra * 365 + inEra / 4 - inEra / 100 + inYear : Nat) : Int) - 719468

def daysToAny (year month day : Int) : Int :=
  let above := Int.fdiv (month - 1) 12
  daysTo (year + above) (month - 12 * above).toNat 1 + day - 1

def isLeap (year : Int) : Bool :=
  Int.fmod year 4 = 0 && (Int.fmod year 100 ≠ 0 || Int.fmod year 400 = 0)

structure Wall where
  year : Int
  month : Nat
  day : Nat
  second : Nat
deriving DecidableEq, Repr

namespace Wall

def ofSeconds (seconds : Int) : Wall :=
  let days := Int.fdiv seconds 86400
  let (year, month, day) := dateOf days
  { year, month, day, second := (seconds - days * 86400).toNat }

def days (wall : Wall) : Int := daysTo wall.year wall.month wall.day

def hour (wall : Wall) : Nat := wall.second / 3600

def minute (wall : Wall) : Nat := wall.second / 60 % 60

def weekday (wall : Wall) : Nat := (Int.fmod (wall.days + 4) 7).toNat

def yearDay (wall : Wall) : Nat := (wall.days - daysTo wall.year 1 1).toNat + 1

/-- The year and the week of a day, where a week belongs to the year that most of its days belong to. -/
def week (wall : Wall) : Int × Nat :=
  let monday := Int.fmod (wall.days + 3) 7
  let thursday := ofSeconds ((wall.days - monday + 3) * 86400)
  (thursday.year, (thursday.yearDay - 1) / 7 + 1)

end Wall

def weekdays : List String := ["Sunday", "Monday", "Tuesday", "Wednesday", "Thursday", "Friday", "Saturday"]

def months : List String :=
  ["January", "February", "March", "April", "May", "June", "July", "August", "September", "October", "November",
   "December"]

example : dateOf (daysTo 2024 2 29) = (2024, 2, 29) ∧ dateOf 0 = (1970, 1, 1) := by decide

end Calendar

end Assay
