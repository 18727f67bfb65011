/-
# StaticPreview.Freshness -- whether the client's copy is current

A client that has a copy may ask for the file only if it changed since a date.
Dates in headers have no fractions, so the comparison is by whole seconds.  A
condition on entity tags, whatever it says, takes precedence, and since no tags
are given out it can never make a copy current.
-/
import StaticPreview.Time.HttpDate
import StaticPreview.Time.MailDate

namespace StaticPreview

open Time

/-- The conditions of a request, as the texts of its headers. -/
structure Conditions where
  modifiedSince : Option String := none
  noneMatch : Option String := none
  deriving DecidableEq, Repr

/-- Whether the copy is current of a file that was modified at an instant.  The
instant is asked for its date only when there is a date to compare it with. -/
def Conditions.current (c : Conditions) (modified : Instant) : Except OutsideCalendar Bool :=
  if c.noneMatch.isSome then .ok false
  else
    match c.modifiedSince.bind fun s => MailDate.read? s.toList with
    | none => .ok false
    | some since =>
        if inCalendar modified.seconds then .ok (modified.seconds ≤ since.seconds)
        else .error ⟨modified⟩

end StaticPreview
