/-!
# The calendar

Days of the Gregorian calendar, extended to all years that a moment may have.
-/

namespace Shortlink.Time

/-- The year has a 29th of February. -/
def isLeapYear (year : Int) : Bool :=
  year % 4 == 0 && (year % 100 != 0 || year % 400 == 0)

/-- The number of days of a month. -/
def daysInMonth (year : Int) (month : Nat) : Nat :=
  match month with
  | 2 => if isLeapYear year then 29 else 28
  | 4 | 6 | 9 | 11 => 30
  | _ => 31

/-- The earliest year of a moment. -/
def minYear : Int := -262143

/-- The latest year of a moment. -/
def maxYear : Int := 262142

/-- A day of the calendar. -/
structure Date where
  year : Int
  month : Nat
  day : Nat
  year_bounds : minYear ≤ year ∧ year ≤ maxYear
  month_bounds : 1 ≤ month ∧ month ≤ 12
  day_bounds : 1 ≤ day ∧ day ≤ daysInMonth year month
  deriving DecidableEq, Repr

namespace Date

/-- The day with these numbers, if there is one. -/
def of? (year : Int) (month day : Nat) : Option Date :=
  if h : (minYear ≤ year ∧ year ≤ maxYear) ∧ (1 ≤ month ∧ month ≤ 12) ∧
      (1 ≤ day ∧ day ≤ daysInMonth year month) then
    some ⟨year, month, day, h.1, h.2.1, h.2.2⟩
  else none

/-- The next day; none after the last day of the last year. -/
def next? (date : Date) : Option Date :=
  if date.day < daysInMonth date.year date.month then of? date.year date.month (date.day + 1)
  else if date.month < 12 then of? date.year (date.month + 1) 1
  else of? (date.year + 1) 1 1

/-- The day before; none before the first day of the first year. -/
def previous? (date : Date) : Option Date :=
  if 1 < date.day then of? date.year date.month (date.day - 1)
  else if 1 < date.month then
    of? date.year (date.month - 1) (daysInMonth date.year (date.month - 1))
  else of? (date.year - 1) 12 31

/-- The number of days from the first of January of the year 0 to the first of January of
`year`. -/
def daysBeforeYear (year : Int) : Int :=
  365 * year + Int.fdiv (year + 3) 4 - Int.fdiv (year + 99) 100 + Int.fdiv (year + 399) 400

/-- The number of days of the first `months` months of a year. -/
def daysBeforeMonth (year : Int) : Nat → Nat
  | 0 => 0
  | months + 1 => daysBeforeMonth year months + daysInMonth year (months + 1)

/-- The number of days since the first of January of the year 0. -/
def number (date : Date) : Int :=
  daysBeforeYear date.year + daysBeforeMonth date.year (date.month - 1) + (date.day - 1 : Nat)

/-- The day of the week, from 1 for Sunday to 7 for Saturday. -/
def weekday (date : Date) : Nat := ((date.number + 6) % 7).toNat + 1

end Date

end Shortlink.Time
