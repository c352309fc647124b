import Shortlink.Time.Calendar

/-!
# Moments

A moment is a time of day on a calendar day, in UTC, to the nanosecond. The last second of
a minute may be a leap second, which is written as the second 60.
-/

namespace Shortlink.Time

/-- A moment in UTC. -/
structure Moment where
  date : Date
  hour : Nat
  minute : Nat
  second : Nat
  nanos : Nat
  hour_lt : hour < 24
  minute_lt : minute < 60
  second_le : second ≤ 60
  nanos_lt : nanos < 1000000000
  deriving DecidableEq, Repr

namespace Moment

/-- The moment with these parts, if there is one. -/
def of? (date : Date) (hour minute second nanos : Nat) : Option Moment :=
  if h : hour < 24 ∧ minute < 60 ∧ second ≤ 60 ∧ nanos < 1000000000 then
    some ⟨date, hour, minute, second, nanos, h.1, h.2.1, h.2.2.1, h.2.2.2⟩
  else none

/-- The parts in which two moments are compared, the most significant first. -/
def parts (moment : Moment) : List Int :=
  [moment.date.year, moment.date.month, moment.date.day, moment.hour, moment.minute,
    moment.second, moment.nanos]

/-- Whether the first of two equally long lists is below the second in dictionary order. -/
def listLt : List Int → List Int → Bool
  | x :: xs, y :: ys => x < y || (x == y && listLt xs ys)
  | _, _ => false

/-- Whether a moment is before another. -/
def isBefore (moment other : Moment) : Bool := listLt moment.parts other.parts

/-- The moment `count` days later than another one, as far as the calendar goes. -/
def plusDays : Nat → Moment → Moment
  | 0, moment => moment
  | count + 1, moment =>
    match moment.date.next? with
    | some date => plusDays count { moment with date := date }
    | none => moment

/-- The moment `count` nanoseconds after one that is no leap second. -/
def plusNanos (moment : Moment) (count : Nat) : Moment :=
  let nanos := moment.nanos + count
  let seconds := (moment.hour * 60 + moment.minute) * 60 + moment.second + nanos / 1000000000
  plusDays (seconds / 86400)
    { date := moment.date
      hour := seconds / 3600 % 24
      minute := seconds / 60 % 60
      second := seconds % 60
      nanos := nanos % 1000000000
      hour_lt := Nat.mod_lt _ (by decide)
      minute_lt := Nat.mod_lt _ (by decide)
      second_le := Nat.le_of_lt (Nat.mod_lt _ (by decide))
      nanos_lt := Nat.mod_lt _ (by decide) }

/-- The moment on a clock that counts microseconds and knows no leap seconds: the fraction is
cut, and a leap second is the first second of the next minute. -/
def toMicros (moment : Moment) : Moment :=
  plusNanos
    { moment with
      second := moment.second - moment.second / 60
      nanos := moment.nanos / 1000 * 1000
      second_le := Nat.le_trans (Nat.sub_le _ _) moment.second_le
      nanos_lt := Nat.lt_of_le_of_lt (Nat.div_mul_le_self _ _) moment.nanos_lt }
    (moment.second / 60 * 1000000000)

/-- The number of days from the first of January of the year 0 to the first of January of
1970. -/
def epochDay : Int := Date.daysBeforeYear 1970

/-- The seconds since the start of 1970; a leap second counts with the second after it. -/
def unixSeconds (moment : Moment) : Int :=
  (moment.date.number - epochDay) * 86400 +
    ((moment.hour * 60 + moment.minute) * 60 + moment.second : Nat)

/-- The later one of two moments. -/
def later (moment other : Moment) : Moment := if moment.isBefore other then other else moment

/-- The moment in UTC of a local moment that is ahead of it by `offset` minutes, of less
than a day either way; none if it leaves the calendar. -/
def ofLocal? (local_ : Moment) (offset : Int) : Option Moment :=
  let minutes : Int := (local_.hour * 60 + local_.minute : Nat) - offset
  let date? :=
    if minutes < 0 then local_.date.previous?
    else if 1440 ≤ minutes then local_.date.next?
    else some local_.date
  let ofDay := (minutes % 1440).toNat
  date?.bind fun date => of? date (ofDay / 60) (ofDay % 60) local_.second local_.nanos

end Moment

end Shortlink.Time
