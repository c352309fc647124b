import Shortlink.Proofs.Time.Stamp
import Shortlink.Time.Moment

/-!
# Moments on the line of time

Where a moment stands on the line of time, in seconds and in nanoseconds since 1970. The calendar
has an end on both sides, so the seconds of all moments are small numbers.
-/

namespace Shortlink.Time

namespace Date

theorem daysBeforeMonth_le (year : Int) (months : Nat) :
    daysBeforeMonth year months ≤ 31 * months := by
  induction months with
  | zero => exact Nat.le_refl 0
  | succ months ih =>
      have month := Stamp.daysInMonth_le year (months + 1)
      rw [daysBeforeMonth]
      omega

/-- The days of the calendar are within a hundred million days of the year 0. -/
theorem number_bounds (date : Date) : -100000000 < date.number ∧ date.number < 100000000 := by
  have year := date.year_bounds
  have month := date.month_bounds
  have day := date.day_bounds
  have before := daysBeforeMonth_le date.year (date.month - 1)
  have length := Stamp.daysInMonth_le date.year date.month
  simp only [minYear, maxYear] at year
  rw [number, daysBeforeYear, Int.fdiv_eq_ediv_of_nonneg _ (by decide),
    Int.fdiv_eq_ediv_of_nonneg _ (by decide), Int.fdiv_eq_ediv_of_nonneg _ (by decide)]
  omega

end Date

namespace Moment

/-- The nanoseconds since the start of 1970; a leap second counts with the second after it. -/
def unixNanos (moment : Moment) : Int := moment.unixSeconds * 1000000000 + moment.nanos

theorem unixNanos_div (moment : Moment) : moment.unixNanos / 1000000000 = moment.unixSeconds := by
  have nanos := moment.nanos_lt
  rw [unixNanos]
  omega

theorem unixSeconds_bounds (moment : Moment) :
    -10000000000000 < moment.unixSeconds ∧ moment.unixSeconds < 10000000000000 := by
  have date := moment.date.number_bounds
  have hour := moment.hour_lt
  have minute := moment.minute_lt
  have second := moment.second_le
  have epoch : epochDay = 719528 := by rfl
  simp only [unixSeconds, epoch]
  omega

end Moment

end Shortlink.Time
