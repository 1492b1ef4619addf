import OzoPg.Types.Basic

/-!
# Time points and durations

The arithmetic of `include/ozo/ext/std/duration.h` and `include/ozo/ext/std/time_point.h` on
the 64-bit tick counts of `std::chrono`: division and remainder truncate toward zero, and
every operation is taken modulo `2 ^ 64`.
-/

namespace OzoPg

/-- One day in microseconds. -/
def usecsPerDay : Int64 := 86400000000

/-- `detail::pg_interval`. -/
structure PgInterval where
  microseconds : Int64
  days : Int32
  months : Int32
  deriving DecidableEq, Repr

/-- `from_chrono_duration`. -/
def fromChronoDuration (x : Int64) : PgInterval :=
  { microseconds := x % usecsPerDay
    days := (x / usecsPerDay).toInt32
    months := 0 }

/-- `to_chrono_duration`. -/
def toChronoDuration (interval : PgInterval) : Int64 :=
  let usecsSurplus := interval.microseconds % usecsPerDay
  let daysTotal := interval.months.toInt64 * 30 + interval.days.toInt64
    + interval.microseconds / usecsPerDay
  if daysTotal < Int64.minValue / usecsPerDay - 1
      ∨ (daysTotal < 0 ∧
        (daysTotal + 1) * usecsPerDay + usecsSurplus < Int64.minValue + usecsPerDay) then
    Int64.minValue
  else if Int64.maxValue / usecsPerDay + 1 < daysTotal
      ∨ (0 < daysTotal ∧
        Int64.maxValue - usecsPerDay < (daysTotal - 1) * usecsPerDay + usecsSurplus) then
    Int64.maxValue
  else
    daysTotal * usecsPerDay + usecsSurplus

/-- `detail::epoch`, 2000-01-01 00:00:00 UTC, in the nanosecond ticks of `system_clock`. -/
def epoch : Int64 := 946684800000000000

/-- The microseconds since `epoch` that `send_impl<system_clock::time_point>` writes. -/
def fromTimePoint (t : Int64) : Int64 := (t - epoch) / 1000

/-- The time point that `recv_impl<system_clock::time_point>` makes of what it reads. -/
def toTimePoint (value : Int64) : Int64 := epoch + value * 1000

end OzoPg
