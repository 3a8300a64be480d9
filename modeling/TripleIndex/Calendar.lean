import TripleIndex.Number.Total

/-!
The proleptic Gregorian calendar: dates of the years 1 to 9999 and their day numbers, counted from
the first of January 1970. A date may also be given by its week and weekday; week one of a year is
the one with the first Thursday in it.
-/

namespace TripleIndex

def isLeapYear (year : Nat) : Bool := year % 4 = 0 && (year % 100 ≠ 0 || year % 400 = 0)

def daysOfMonth (year month : Nat) : Nat :=
  if month = 2 then if isLeapYear year then 29 else 28
  else if month = 4 || month = 6 || month = 9 || month = 11 then 30
  else 31

structure Date where
  year : Nat
  month : Nat
  day : Nat
  deriving DecidableEq, Repr

namespace Date

def isValid (d : Date) : Bool :=
  1 ≤ d.year && d.year ≤ 9999 && 1 ≤ d.month && d.month ≤ 12 && 1 ≤ d.day &&
    d.day ≤ daysOfMonth d.year d.month

/-- Days of the years before a year, from the year 1 on. -/
def daysBeforeYear (year : Nat) : Nat :=
  let past := year - 1
  365 * past + past / 4 - past / 100 + past / 400

def daysBeforeMonth (year month : Nat) : Nat :=
  total ((List.range (month - 1)).map fun m => daysOfMonth year (m + 1))

/-- The number of a day, which is one for the first day of the year 1. -/
def ordinal (d : Date) : Nat :=
  daysBeforeYear d.year + daysBeforeMonth d.year d.month + d.day

/-- The number of the first of January 1970. -/
def epochOrdinal : Nat := 719163

/-- Days since the first of January 1970. -/
def epochDay (d : Date) : Int := (d.ordinal : Int) - epochOrdinal

end Date

/-- Weekday of a day number, Monday being zero. -/
def weekday (ordinal : Nat) : Nat := (ordinal + 6) % 7

/-- A year has 53 weeks when it begins on a Thursday, or on a Wednesday and is a leap year. -/
def weeksOfYear (year : Nat) : Nat :=
  let first := weekday (Date.ordinal ⟨year, 1, 1⟩)
  if first = 3 || first = 2 && isLeapYear year then 53 else 52

/-- The number of the Monday that begins week one of a year. It may lie in the year before. -/
def firstMonday (year : Nat) : Int :=
  let first := Date.ordinal ⟨year, 1, 1⟩
  let monday := (first : Int) - weekday first
  if 3 < weekday first then monday + 7 else monday

/-- Days since the first of January 1970 of a weekday, from one for Monday to seven, of a week. -/
def epochDayOfWeek? (year week day : Nat) : Option Int :=
  let ordinal := firstMonday year + (7 * (week - 1) + (day - 1) : Nat)
  if 1 ≤ year && 1 ≤ week && week ≤ weeksOfYear year && 1 ≤ day && day ≤ 7 &&
      1 ≤ ordinal && ordinal ≤ Date.ordinal ⟨9999, 12, 31⟩ then
    some (ordinal - Date.epochOrdinal)
  else none

end TripleIndex
