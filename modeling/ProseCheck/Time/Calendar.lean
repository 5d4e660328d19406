/-! # Calendar

Days of the Gregorian calendar, counted from the first of January 1970. Years are counted from
March on, so that the leap day is the last day of a year and months have a regular pattern.
-/

namespace ProseCheck

structure Date where
  year : Int
  month : Nat
  day : Nat
  deriving DecidableEq, Repr, Inhabited

namespace Date

def isLeap (year : Int) : Bool := year % 4 == 0 && (year % 100 != 0 || year % 400 == 0)

def daysInMonth (year : Int) (month : Nat) : Nat :=
  match month with
  | 2 => if isLeap year then 29 else 28
  | 4 | 6 | 9 | 11 => 30
  | _ => 31

/-- The years that can be told. -/
def firstYear : Int := -262143
def lastYear : Int := 262142

def isValid (d : Date) : Bool :=
  firstYear ≤ d.year && d.year ≤ lastYear && 1 ≤ d.month && d.month ≤ 12 &&
    1 ≤ d.day && d.day ≤ daysInMonth d.year d.month

def eraDays : Int := 146097

/-- From the first of March of the year 0 to the first of January 1970. -/
def epochDays : Int := 719468

def toDays (d : Date) : Int :=
  let year := if d.month ≤ 2 then d.year - 1 else d.year
  let yearOfEra := year % 400
  let monthsSinceMarch : Int := (d.month + 9) % 12
  let dayOfYear := (153 * monthsSinceMarch + 2) / 5 + d.day - 1
  let dayOfEra := yearOfEra * 365 + yearOfEra / 4 - yearOfEra / 100 + dayOfYear
  year / 400 * eraDays + dayOfEra - epochDays

def ofDays (days : Int) : Date :=
  let shifted := days + epochDays
  let dayOfEra := shifted % eraDays
  let yearOfEra :=
    (dayOfEra - dayOfEra / 1460 + dayOfEra / 36524 - dayOfEra / 146096) / 365
  let dayOfYear := dayOfEra - (365 * yearOfEra + yearOfEra / 4 - yearOfEra / 100)
  let monthsSinceMarch := (5 * dayOfYear + 2) / 153
  let day := dayOfYear - (153 * monthsSinceMarch + 2) / 5 + 1
  let month := (monthsSinceMarch + 2) % 12 + 1
  let year := shifted / eraDays * 400 + yearOfEra
  ⟨if month ≤ 2 then year + 1 else year, month.toNat, day.toNat⟩

end Date
end ProseCheck
