import ColorCalls.Text.Basic

namespace ColorCalls

structure Moment where
  year : Nat
  month : Nat
  day : Nat
  hour : Nat
  minute : Nat
  second : Nat
  nanosecond : Nat := 0
  /-- How far the clock is ahead of universal time, in seconds. -/
  offset : Int := 0
  deriving DecidableEq, Repr

namespace Moment

def isLeapYear (year : Nat) : Bool := year % 4 = 0 && (year % 100 ≠ 0 || year % 400 = 0)

def daysBeforeMonth (year month : Nat) : Nat :=
  let common := ([0, 31, 59, 90, 120, 151, 181, 212, 243, 273, 304, 334] : List Nat)
  common.getD (month - 1) 0 + if 2 < month && isLeapYear year then 1 else 0

def daysBeforeYear (year : Nat) : Int :=
  let y : Int := year - 1
  365 * y + y / 4 - y / 100 + y / 400

def dayOfYear (m : Moment) : Nat := daysBeforeMonth m.year m.month + m.day

def epochDay (m : Moment) : Int :=
  daysBeforeYear m.year - daysBeforeYear 1970 + (m.dayOfYear - 1 : Nat)

def daysFromMonday (m : Moment) : Nat := ((m.epochDay + 3) % 7).toNat

def daysFromSunday (m : Moment) : Nat := ((m.epochDay + 4) % 7).toNat

def epochNanoseconds (m : Moment) : Int :=
  (m.epochDay * 86400 + (m.hour * 3600 + m.minute * 60 + m.second : Nat) - m.offset) * 1000000000 +
    m.nanosecond

/-- The weeks of a year that begin on Monday and have four days or more in it. -/
def isoWeeksIn (year : Nat) : Nat :=
  let firstWeekday := ((daysBeforeYear year) % 7).toNat
  if firstWeekday = 3 || (firstWeekday = 2 && isLeapYear year) then 53 else 52

def isoWeek (m : Moment) : Nat × Nat :=
  let week := (m.dayOfYear + 9 - m.daysFromMonday) / 7
  if week = 0 then (m.year - 1, isoWeeksIn (m.year - 1))
  else if isoWeeksIn m.year < week then (m.year + 1, 1)
  else (m.year, week)

def monthNames : List Text :=
  ["January", "February", "March", "April", "May", "June", "July", "August", "September",
    "October", "November", "December"]

def weekdayNames : List Text :=
  ["Monday", "Tuesday", "Wednesday", "Thursday", "Friday", "Saturday", "Sunday"]

def monthName (m : Moment) : Text := monthNames.getD (m.month - 1) []

def weekdayName (m : Moment) : Text := weekdayNames.getD m.daysFromMonday []

end Moment

end ColorCalls
