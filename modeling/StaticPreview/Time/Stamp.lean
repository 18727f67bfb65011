/-
# StaticPreview.Time.Stamp -- local times in access lines

A stamp is an instant with the distance of the local clock from UTC.  It is
written in the form of the common log format or as an ISO 8601 time; both show
the distance in whole minutes, rounded, and its sign even when it rounds to none.
-/
import StaticPreview.Time.HttpDate

namespace StaticPreview.Time

open StaticPreview.Text

/-- An instant on a local clock. -/
structure Stamp where
  instant : Instant
  /-- How far the local clock is ahead of UTC, in seconds. -/
  offset : Int := 0
  deriving DecidableEq, Repr

namespace Stamp

/-- What the local clock and calendar show. -/
def dateTime (s : Stamp) : DateTime := DateTime.ofSeconds (s.instant.seconds + s.offset)

/-- The distance from UTC: a sign, hours, the separator and minutes. -/
def zoneText (separator : List Char) (s : Stamp) : List Char :=
  let minutes := (s.offset.natAbs + 30) / 60
  (if s.offset < 0 then '-' else '+') :: two (minutes / 60) ++ separator ++ two (minutes % 60)

/-- As in the common log format, `06/Nov/1994:08:49:37 +0000`. -/
def logText (s : Stamp) : List Char :=
  let t := s.dateTime
  two t.date.day ++ '/' :: nameAt monthNames (t.date.month - 1) ++ '/' ::
    yearText t.date.year ++ ':' :: t.clockText ++ ' ' :: s.zoneText []

/-- The fraction of a second, in as many of three, six or nine digits as it needs. -/
def fractionText (nanos : Nat) : List Char :=
  if nanos = 0 then []
  else if nanos % 1000000 = 0 then '.' :: Decimal.padded 3 (nanos / 1000000)
  else if nanos % 1000 = 0 then '.' :: Decimal.padded 6 (nanos / 1000)
  else '.' :: Decimal.padded 9 nanos

/-- As in ISO 8601, `1994-11-06T08:49:37+00:00`. -/
def isoText (s : Stamp) : List Char :=
  let t := s.dateTime
  yearText t.date.year ++ '-' :: two t.date.month ++ '-' :: two t.date.day ++ 'T' ::
    t.clockText ++ fractionText s.instant.nanos ++ s.zoneText [':']

end Stamp

end StaticPreview.Time
