/-
# StaticPreview.Serving -- one connection after another, until asked to stop

Clients that arrive wait in a queue, and one of them at a time is served.  Whenever
the server runs it first looks whether it was asked to stop; only then it goes on
with the connection in flight, or takes the first client from the queue when there
is none.  When the operating system fails to hand out a client, that is an entry of the
error log, and the server waits for the next one.  A connection in flight is given up when
the server stops.

The queue holds those whom the operating system is going to hand out.  A connection that was
broken off before that shows as a failure when its turn comes.

What happens to the server is a list of events in the order in which they happen, and
any order is possible; `step` is one of them and `run` all of them.  Nothing happens to a
server that has stopped (`run_of_stopped`).
-/
import StaticPreview.Shutdown
import StaticPreview.Site

namespace StaticPreview

/-- What comes of the connection in flight when the server runs. -/
inductive Progress where
  /-- The client keeps it waiting. -/
  | waits
  /-- Its request has been handled; the response is on its way. -/
  | answers (exchange : Site.Exchange)
  /-- It is over: the client has got its response, has broken off, or took too long.
  The notices tell what went wrong. -/
  | ends (notices : List Notice)
  deriving DecidableEq, Repr

/-- No client could be taken up, and why. -/
def Notice.acceptFailed (cause : IoError) : Notice :=
  .error ("Failed to accept connection: " ++ cause.message)

/-- What happens to a server. -/
inductive Event (α : Type) where
  /-- A client arrives. -/
  | arrives (client : α)
  /-- The server is asked to stop by a signal. -/
  | asked (signal : String)
  /-- The server runs; the connection in flight, if there is one, comes that far. -/
  | runs (progress : Progress)
  /-- The server runs, and gets a failure instead of a client; it asks for one only while no
  connection is in flight. -/
  | acceptFails (cause : IoError)
  deriving DecidableEq, Repr

/-- A server with the clients that it has to do with. -/
structure Serving (α : Type) where
  /-- The clients that have arrived, first come first. -/
  waiting : List α := []
  /-- The client that is being served. -/
  inFlight : Option α := none
  shutdown : Shutdown := {}
  /-- Whether the server has stopped. -/
  stopped : Bool := false
  deriving DecidableEq, Repr

namespace Serving

variable {α : Type}

/-- A server that goes on: the connection in flight, or the next one. -/
def advance (s : Serving α) (progress : Progress) : Serving α × Journal :=
  match s.inFlight, progress with
  | some _, .waits => (s, {})
  | some _, .answers exchange => (s, exchange.journal)
  | some _, .ends notices => ({ s with inFlight := none }, Journal.ofNotices notices)
  | none, _ =>
      match s.waiting with
      | [] => (s, {})
      | client :: rest => ({ s with waiting := rest, inFlight := some client }, {})

/-- A server that gets a failure instead of a client. -/
def miss (s : Serving α) (cause : IoError) : Serving α × Journal :=
  match s.inFlight with
  | some _ => (s, {})
  | none => (s, Journal.ofNotices [.acceptFailed cause])

/-- A server that runs: it stops when it was asked to, and goes on otherwise. -/
def look (s : Serving α) (goesOn : Serving α → Serving α × Journal) : Serving α × Journal :=
  let (stops, shutdown) := s.shutdown.take
  if stops then
    ({ s with inFlight := none, shutdown, stopped := true }, Journal.ofAccess [Lifecycle.stopped])
  else goesOn { s with shutdown }

/-- A server after one event, and what is written down. -/
def step (s : Serving α) (e : Event α) : Serving α × Journal :=
  if s.stopped then (s, {})
  else
    match e with
    | .arrives client => ({ s with waiting := s.waiting ++ [client] }, {})
    | .asked signal =>
        let (shutdown, entry) := s.shutdown.request signal
        ({ s with shutdown }, Journal.ofAccess [entry])
    | .runs progress => s.look fun s => s.advance progress
    | .acceptFails cause => s.look fun s => s.miss cause

/-- A server after some events, and what is written down. -/
def run (s : Serving α) : List (Event α) → Serving α × Journal
  | [] => (s, {})
  | e :: events =>
      let (s, journal) := s.step e
      let (s, rest) := s.run events
      (s, journal ++ rest)

theorem step_of_stopped {s : Serving α} (h : s.stopped = true) (e : Event α) :
    s.step e = (s, {}) := by
  simp [step, h]

/-- **Nothing happens to a server that has stopped.** -/
theorem run_of_stopped {s : Serving α} (h : s.stopped = true) (events : List (Event α)) :
    (s.run events).1 = s := by
  induction events with
  | nil => rfl
  | cons e events ih => simp only [run, step_of_stopped h e, ih]

end Serving

end StaticPreview
