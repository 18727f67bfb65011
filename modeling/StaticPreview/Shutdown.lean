/-
# StaticPreview.Shutdown -- the request to stop

A request to stop leaves a permit behind, and whoever waits for the request takes
the permit.  The permit stays until it is taken, so a request made while nobody
waits is not lost: a wait after it is over at once.  There is at most one permit, so two
requests before a wait are one.
-/
import StaticPreview.Lifecycle

namespace StaticPreview

/-- Whether a request to stop is still to be noticed. -/
structure Shutdown where
  permit : Bool := false
  deriving DecidableEq, Repr

namespace Shutdown

/-- After a request to stop; the entry for the access log says by what. -/
def request (_ : Shutdown) (signal : String) : Shutdown × String :=
  ({ permit := true }, Lifecycle.stopRequested signal)

/-- Whether a wait is over at once, and what the wait leaves behind. -/
def take (s : Shutdown) : Bool × Shutdown := (s.permit, { permit := false })

end Shutdown

end StaticPreview
