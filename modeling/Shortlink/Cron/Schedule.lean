import Shortlink.Cron.Expression
import Shortlink.Time.Moment

/-!
# Schedules

The values that the fields of a cron expression allow, and the moments at which a schedule
fires: those whose every part is allowed, the day of the month and the day of the week both.
-/

namespace Shortlink.Cron

open Time (Moment Date)

/-- What a field counts: its least and greatest value, and the names of its values from the
least on, with the spellings of each. -/
structure Part where
  low : Nat
  high : Nat
  names : List (List String)
  deriving DecidableEq, Repr

namespace Part

/-- Seconds, and likewise minutes. -/
def sixty : Part := ⟨0, 59, []⟩

/-- Hours. -/
def hour : Part := ⟨0, 23, []⟩

/-- Days of the month. -/
def day : Part := ⟨1, 31, []⟩

/-- Months. -/
def month : Part :=
  ⟨1, 12, [["jan", "january"], ["feb", "february"], ["mar", "march"], ["apr", "april"],
    ["may"], ["jun", "june"], ["jul", "july"], ["aug", "august"], ["sep", "september"],
    ["oct", "october"], ["nov", "november"], ["dec", "december"]]⟩

/-- Days of the week, from Sunday on. -/
def weekday : Part :=
  ⟨1, 7, [["sun", "sunday"], ["mon", "monday"], ["tue", "tues", "tuesday"],
    ["wed", "wednesday"], ["thu", "thurs", "thursday"], ["fri", "friday"],
    ["sat", "saturday"]]⟩

/-- Years. -/
def year : Part := ⟨1970, 2100, []⟩

/-- All values from one to another. -/
def between (first last : Nat) : List Nat := List.range' first (last + 1 - first)

/-- All values of the field, in ascending order. -/
def all (part : Part) : List Nat := between part.low part.high

/-- The value is one of the field. -/
def allows (part : Part) (value : Nat) : Bool := part.low ≤ value && value ≤ part.high

/-- The value with a name, in any case. -/
def named? (part : Part) (name : List Char) : Option Nat :=
  let name := String.ofList (name.map Char.toLower)
  (part.names.findIdx? (·.contains name)).map (part.low + ·)

/-- The values of a span. Its ends must be values of the field in ascending order. -/
def spanValues? (part : Part) : Span → Option (List Nat)
  | .all => some part.all
  | .point value => if part.allows value then some [value] else none
  | .range first last =>
    if part.allows first ∧ part.allows last ∧ first ≤ last then some (between first last)
    else none
  | .names first last => do
    let first ← part.named? first
    let last ← part.named? last
    if first ≤ last then some (between first last) else none

/-- Every so many values of a list, starting with the first. -/
def everyNth (step : Nat) (values : List Nat) : List Nat :=
  values.zipIdx.filterMap fun (value, place) => if place % step = 0 then some value else none

/-- The values of a part of the field. -/
def entryValues? (part : Part) : Entry → Option (List Nat)
  | .span span => part.spanValues? span
  | .name name => (part.named? name).map fun value => [value]
  | .stepped span step =>
    if 1 ≤ step ∧ step ≤ part.high then
      match span with
      | .point value =>
        if part.allows value then some (everyNth step (between value part.high)) else none
      | span => (part.spanValues? span).map (everyNth step)
    else none

/-- The values of a field in ascending order. -/
def values? (part : Part) (field : Field) : Option (List Nat) := do
  let values ← field.mapM part.entryValues?
  pure (part.all.filter fun value => values.any (·.contains value))

end Part

/-- The values that a schedule allows, each list in ascending order. -/
structure Schedule where
  seconds : List Nat
  minutes : List Nat
  hours : List Nat
  days : List Nat
  months : List Nat
  weekdays : List Nat
  years : List Nat
  deriving DecidableEq, Repr

namespace Schedule

/-- The schedule that fires at the start of every hour. -/
def hourly : Schedule :=
  ⟨[0], [0], Part.hour.all, Part.day.all, Part.month.all, Part.weekday.all, Part.year.all⟩

/-- The schedule that fires at the start of every day. -/
def daily : Schedule := { hourly with hours := [0] }

/-- The schedule of a word. -/
def ofShorthand : Shorthand → Schedule
  | .hourly => hourly
  | .daily => daily
  | .weekly => { daily with weekdays := [1] }
  | .monthly => { daily with days := [1] }
  | .yearly => { daily with days := [1], months := [1] }

/-- The schedule of an expression, if each of its fields makes sense. -/
def ofExpression? : Expression → Option Schedule
  | .shorthand word => some (ofShorthand word)
  | .fields second minute hour day month weekday year => do
    let seconds ← Part.sixty.values? second
    let minutes ← Part.sixty.values? minute
    let hours ← Part.hour.values? hour
    let days ← Part.day.values? day
    let months ← Part.month.values? month
    let weekdays ← Part.weekday.values? weekday
    let years ← match year with
      | some year => Part.year.values? year
      | none => pure Part.year.all
    pure ⟨seconds, minutes, hours, days, months, weekdays, years⟩

/-- What is said about a text that is no schedule. -/
def unreadable : String := "not a cron expression"

/-- Reads a schedule. -/
def parse? (text : String) : Option Schedule :=
  (Expression.parse? text.toList).bind ofExpression?

/-! ## Firing -/

/-- The schedule fires on a day. -/
def firesOn (schedule : Schedule) (date : Date) : Bool :=
  schedule.years.any (fun year => (year : Int) == date.year) &&
    schedule.months.contains date.month && schedule.days.contains date.day &&
    schedule.weekdays.contains date.weekday

/-- The second of a day that a time of day is. -/
def secondOfDay (hour minute second : Nat) : Nat := (hour * 60 + minute) * 60 + second

/-- The first second of a day, from `start` on, at which the schedule fires. -/
def timeFrom? (schedule : Schedule) (start : Nat) : Option (Nat × Nat × Nat) :=
  schedule.hours.findSome? fun hour =>
    if secondOfDay hour 59 59 < start then none
    else
      schedule.minutes.findSome? fun minute =>
        if secondOfDay hour minute 59 < start then none
        else
          (schedule.seconds.find? fun second => start ≤ secondOfDay hour minute second).map
            fun second => (hour, minute, second)

/-- The first moment at which the schedule fires, within `days` days from `date` on and not
before the second `start` of the first of them. -/
def firstWithin? (schedule : Schedule) : Nat → Date → Nat → Option Moment
  | 0, _, _ => none
  | days + 1, date, start =>
    let here :=
      if schedule.firesOn date then
        (schedule.timeFrom? start).bind fun (hour, minute, second) =>
          Moment.of? date hour minute second 0
      else none
    match here with
    | some moment => some moment
    | none => date.next?.bind fun next => schedule.firstWithin? days next 0

/-- The days from a day on to the end of the last year of any schedule. -/
def daysLeft (date : Date) : Nat := (Date.daysBeforeYear (Part.year.high + 1) - date.number).toNat

/-- The first moment after the given one at which the schedule fires. -/
def after? (schedule : Schedule) (moment : Moment) : Option Moment :=
  schedule.firstWithin? (daysLeft moment.date) moment.date
    (secondOfDay moment.hour moment.minute moment.second + 1)

end Schedule

end Shortlink.Cron
