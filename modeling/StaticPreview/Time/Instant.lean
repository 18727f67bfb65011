/-
# StaticPreview.Time.Instant -- points in time

An instant is a number of whole seconds since the start of 1970 in UTC and a
fraction of a second that is never negative, so that the second an instant
belongs to is `seconds`, before 1970 too.  The times of files reach further than
the calendar that dates are written with (`inCalendar`).
-/
import StaticPreview.Time.Calendar

namespace StaticPreview.Time

/-- A point in time. -/
structure Instant where
  /-- Whole seconds since the start of 1970, rounded down. -/
  seconds : Int
  /-- The fraction of a second in nanoseconds. -/
  nanos : Nat := 0
  nanos_lt : nanos < 1000000000 := by omega
  deriving DecidableEq, Repr

/-- The instant at which a second starts. -/
def Instant.ofSeconds (seconds : Int) : Instant := ⟨seconds, 0, Nat.succ_pos 999999999⟩

/-- The instant that lies a number of nanoseconds after the start of 1970. -/
def Instant.ofNanoseconds (n : Int) : Instant :=
  ⟨n / 1000000000, (n % 1000000000).toNat, by omega⟩

/-- The first and the last year that dates are written with. -/
def firstYear : Int := -262143

@[inherit_doc firstYear]
def lastYear : Int := 262142

/-- The first second of the first year that is written. -/
def firstSecond : Int := (Date.daysBeforeYear firstYear - Date.epochDays) * 86400

/-- The last second of the last year that is written. -/
def lastSecond : Int := (Date.daysBeforeYear (lastYear + 1) - Date.epochDays) * 86400 - 1

/-- Whether a second lies in the years that dates are written with. -/
def inCalendar (seconds : Int) : Bool := firstSecond ≤ seconds && seconds ≤ lastSecond

/-- A time that lies outside the calendar, so that it has no date. -/
structure OutsideCalendar where
  instant : Instant
  deriving DecidableEq, Repr

/-- The date and time of an instant in UTC. -/
def Instant.toDateTime (t : Instant) : Except OutsideCalendar DateTime :=
  if inCalendar t.seconds then .ok (DateTime.ofSeconds t.seconds) else .error ⟨t⟩

end StaticPreview.Time
