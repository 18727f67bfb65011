/-
# StaticPreview.Time.Calendar -- dates of the proleptic Gregorian calendar

Days are numbered from the first of January 1970, in both directions and without
end.  `Date.number` counts the days before a date from the leap-year rule;
`Date.ofNumber` finds the date again: it takes whole cycles of 400 years out,
then a year (at most one more than the quotient by 366), then a month.
-/
namespace StaticPreview.Time

/-- A day of the calendar; the year before year 1 is year 0. -/
structure Date where
  year : Int
  /-- From 1 to 12. -/
  month : Nat
  /-- From 1 on. -/
  day : Nat
  deriving DecidableEq, Repr

namespace Date

/-- Every fourth year is a leap year, but of the centuries only every fourth. -/
def isLeap (year : Int) : Bool := year % 4 == 0 && (year % 100 != 0 || year % 400 == 0)

/-- The lengths of the twelve months. -/
def monthLengths (leap : Bool) : List Nat :=
  [31, if leap then 29 else 28, 31, 30, 31, 30, 31, 31, 30, 31, 30, 31]

/-- The days from the first of January of year 0 to that of a year. -/
def daysBeforeYear (year : Int) : Int :=
  365 * year + (year + 3) / 4 - (year + 99) / 100 + (year + 399) / 400

/-- The days from the first of January of year 0 to the day numbered zero. -/
def epochDays : Int := 719528

/-- The days of a year before the first of a month. -/
def daysBeforeMonth (leap : Bool) (month : Nat) : Nat :=
  ((monthLengths leap).take (month - 1)).foldl (· + ·) 0

/-- The number of a date. -/
def number (d : Date) : Int :=
  daysBeforeYear d.year + daysBeforeMonth (isLeap d.year) d.month + ((d.day : Int) - 1) -
    epochDays

/-- A date that the calendar has. -/
def Valid (d : Date) : Prop :=
  1 ≤ d.month ∧ d.month ≤ 12 ∧ 1 ≤ d.day ∧
    d.day ≤ ((monthLengths (isLeap d.year))[d.month - 1]?).getD 0

instance (d : Date) : Decidable d.Valid := by unfold Valid; infer_instance

/-- The month and the day of the month of the day that has `rest` days before it
since the first of month `month`, the months from there on having these lengths. -/
def locate (month rest : Nat) : List Nat → Nat × Nat
  | [] => (month, rest + 1)
  | length :: lengths =>
      if rest < length then (month, rest + 1) else locate (month + 1) (rest - length) lengths

/-- The date with a number. -/
def ofNumber (n : Int) : Date :=
  let days := n + epochDays
  let cycle := days / 146097
  let rest := days % 146097
  let early := rest / 366
  let inCycle := if daysBeforeYear (early + 1) ≤ rest then early + 1 else early
  let year := cycle * 400 + inCycle
  let place := locate 1 (rest - daysBeforeYear inCycle).toNat (monthLengths (isLeap year))
  { year, month := place.1, day := place.2 }

/-- The day of the week of the day with a number, Sunday being 0. -/
def weekdayOf (n : Int) : Nat := ((n + 4) % 7).toNat

end Date

/-- The three-letter names of the days of the week, from Sunday on. -/
def weekdayNames : List String := ["Sun", "Mon", "Tue", "Wed", "Thu", "Fri", "Sat"]

/-- The three-letter names of the months. -/
def monthNames : List String :=
  ["Jan", "Feb", "Mar", "Apr", "May", "Jun", "Jul", "Aug", "Sep", "Oct", "Nov", "Dec"]

/-- A time of a day, to the second. -/
structure DateTime where
  date : Date
  /-- The weekday, Sunday being 0. -/
  weekday : Nat
  hour : Nat
  minute : Nat
  second : Nat
  deriving DecidableEq, Repr

/-- The time that lies a number of seconds after the start of day zero. -/
def DateTime.ofSeconds (seconds : Int) : DateTime :=
  let day := seconds / 86400
  let rest := (seconds % 86400).toNat
  { date := Date.ofNumber day
    weekday := Date.weekdayOf day
    hour := rest / 3600
    minute := rest / 60 % 60
    second := rest % 60 }

end StaticPreview.Time
