/-
# StaticPreview.Time.HttpDate -- the dates in HTTP headers

A date in a header has a fixed form, always in UTC and to the second:
weekday, day, month, year, time and `GMT`.  A year of other than four digits has
a sign.
-/
import StaticPreview.Text.Decimal
import StaticPreview.Time.Instant

namespace StaticPreview.Time

open StaticPreview.Text

/-- A number in two digits at least. -/
def two (n : Nat) : List Char := Decimal.padded 2 n

/-- A year in four digits at least, signed unless it has exactly four. -/
def yearText (year : Int) : List Char :=
  if 0 ≤ year ∧ year ≤ 9999 then Decimal.padded 4 year.toNat
  else (if year < 0 then '-' else '+') :: Decimal.padded 4 year.natAbs

/-- The name at a place in a list of names. -/
def nameAt (names : List String) (i : Nat) : List Char := (names[i]?.getD "").toList

namespace DateTime

/-- Hour, minute and second with colons between them. -/
def clockText (t : DateTime) : List Char :=
  two t.hour ++ ':' :: two t.minute ++ ':' :: two t.second

/-- A date and time as HTTP headers have them. -/
def httpText (t : DateTime) : List Char :=
  nameAt weekdayNames t.weekday ++ [',', ' '] ++ two t.date.day ++ ' ' ::
    nameAt monthNames (t.date.month - 1) ++ ' ' :: yearText t.date.year ++ ' ' ::
    t.clockText ++ [' ', 'G', 'M', 'T']

end DateTime

/-- An instant as HTTP headers have it. -/
def Instant.httpDate (t : Instant) : Except OutsideCalendar String :=
  t.toDateTime.map fun d => String.ofList d.httpText

end StaticPreview.Time
