/-
# StaticPreview.Proofs.Serving.Turns -- what a server does with its clients, and when it stops

Whenever a server runs and is not to stop, it does one thing: it starts with the first client
that waits, goes on with the one in flight, or misses the next one because the operating system
fails.  `Serving.turn?` reads that off one event and `turns` off all of them; `happens_step`
says once what else happens at an event, case by case, and what is written down.

Along every run, wherever it began:

* the turns are in order (`inOrder_turns`): nobody is started or missed while another is in
  flight, and only the one in flight goes on;
* those who were started came first (`started_turns`);
* nothing is done with a client from the first request to stop on (`turns_asked`);
* what stands in the error log is what the turns leave there (`errors_run`), and in the access
  log what the requests leave, then each request to stop up to the next time the server runs,
  then that it stopped (`access_run`).
-/
import StaticPreview.Serving

namespace StaticPreview

variable {α : Type}

/-! ## Events -/

namespace Event

/-- Whether an event asks the server to stop. -/
def isAsked : Event α → Bool
  | .asked _ => true
  | _ => false

/-- Whether the server runs. -/
def isRuns : Event α → Bool
  | .runs _ | .acceptFails _ => true
  | _ => false

/-- The client that arrives. -/
def client? : Event α → Option α
  | .arrives client => some client
  | _ => none

/-- The signal that the server is asked by. -/
def signal? : Event α → Option String
  | .asked signal => some signal
  | _ => none

/-- The signals of the requests to stop that are made before the server runs after the first
of them. -/
def closing (events : List (Event α)) : List String :=
  ((events.dropWhile (!·.isAsked)).takeWhile (!·.isRuns)).filterMap signal?

/-- Whether the server runs after a request to stop. -/
def closes (events : List (Event α)) : Bool := (events.dropWhile (!·.isAsked)).any isRuns

end Event

/-! ## Turns -/

/-- Whether a connection is over. -/
def Progress.isEnd : Progress → Bool
  | .ends _ => true
  | _ => false

/-- What is written down of a connection that came this far. -/
def Progress.journal : Progress → Journal
  | .waits => {}
  | .answers exchange => exchange.journal
  | .ends notices => Journal.ofNotices notices

/-- What is done with a client. -/
inductive Turn (α : Type) where
  /-- Its connection is taken up. -/
  | starts (client : α)
  /-- Its connection goes on, and comes that far. -/
  | goesOn (client : α) (progress : Progress)
  /-- There is none, because none could be taken up. -/
  | misses (cause : IoError)
  deriving DecidableEq, Repr

namespace Turn

/-- What is written down of a turn. -/
def journal : Turn α → Journal
  | .starts _ => {}
  | .goesOn _ progress => progress.journal
  | .misses cause => { errors := ["[ERROR] Failed to accept connection: " ++ cause.message] }

/-- The client whose connection is taken up. -/
def started? : Turn α → Option α
  | .starts client => some client
  | .goesOn .. | .misses _ => none

/-- Turns in which one client at a time is served, given who is in flight. -/
def InOrder : Option α → List (Turn α) → Prop
  | _, [] => True
  | inFlight, .starts client :: turns => inFlight = none ∧ InOrder (some client) turns
  | inFlight, .goesOn client progress :: turns =>
      inFlight = some client ∧ InOrder (if progress.isEnd then none else some client) turns
  | inFlight, .misses _ :: turns => inFlight = none ∧ InOrder none turns

end Turn

namespace Serving

variable {s : Serving α} {e : Event α} {turn : Turn α} {client : α} {progress : Progress}
  {events : List (Event α)}

/-- A server that was not asked to stop. -/
def Going (s : Serving α) : Prop := s.stopped = false ∧ s.shutdown.permit = false

/-- A server that was asked to stop and has not run since. -/
def Asked (s : Serving α) : Prop := s.stopped = false ∧ s.shutdown.permit = true

/-- What the server does with a client at an event. -/
def turn? (s : Serving α) : Event α → Option (Turn α)
  | .runs progress =>
      if s.stopped || s.shutdown.permit then none
      else
        match s.inFlight with
        | some client => some (.goesOn client progress)
        | none => s.waiting.head?.map .starts
  | .acceptFails cause =>
      if s.stopped || s.shutdown.permit || s.inFlight.isSome then none else some (.misses cause)
  | _ => none

/-- What the server does with its clients while events happen. -/
def turns (s : Serving α) : List (Event α) → List (Turn α)
  | [] => []
  | e :: events => (s.turn? e).toList ++ (s.step e).1.turns events

/-! ## One event -/

/-- What can happen at one event: what is done with a client, the server after it, and what
is written down. -/
inductive Happens (s : Serving α) : Event α → Option (Turn α) → Serving α → Journal → Prop where
  /-- The server has stopped. -/
  | nothing (stopped : s.stopped = true) (e : Event α) : Happens s e none s {}
  | arrives (open_ : s.stopped = false) (client : α) :
      Happens s (.arrives client) none { s with waiting := s.waiting ++ [client] } {}
  | asked (open_ : s.stopped = false) (signal : String) :
      Happens s (.asked signal) none { s with shutdown := { permit := true } }
        (Journal.ofAccess [Lifecycle.stopRequested signal])
  /-- The server stops, and the connection in flight is given up. -/
  | stops (asked : s.Asked) {e : Event α} (runs : e.isRuns = true) :
      Happens s e none { s with inFlight := none, shutdown := {}, stopped := true }
        (Journal.ofAccess [Lifecycle.stopped])
  /-- There is no client. -/
  | idles (going : s.Going) (free : s.inFlight = none) (empty : s.waiting = [])
      (progress : Progress) : Happens s (.runs progress) none s {}
  | starts (going : s.Going) (free : s.inFlight = none) {client : α} {rest : List α}
      (first : s.waiting = client :: rest) (progress : Progress) :
      Happens s (.runs progress) (some (.starts client))
        { s with waiting := rest, inFlight := some client } {}
  | goesOn (going : s.Going) {client : α} (served : s.inFlight = some client)
      (progress : Progress) :
      Happens s (.runs progress) (some (.goesOn client progress))
        { s with inFlight := if progress.isEnd then none else some client } progress.journal
  /-- The operating system is not asked for a client while another is in flight. -/
  | busy (going : s.Going) {client : α} (served : s.inFlight = some client) (cause : IoError) :
      Happens s (.acceptFails cause) none s {}
  | misses (going : s.Going) (free : s.inFlight = none) (cause : IoError) :
      Happens s (.acceptFails cause) (some (.misses cause)) s
        (Journal.ofNotices [.acceptFailed cause])

/-- **Nothing else can happen.** -/
theorem happens_step (s : Serving α) (e : Event α) :
    s.Happens e (s.turn? e) (s.step e).1 (s.step e).2 := by
  obtain ⟨waiting, inFlight, ⟨permit⟩, stopped⟩ := s
  cases stopped with
  | true => cases e <;> exact .nothing rfl _
  | false =>
      cases e with
      | arrives client => exact .arrives rfl client
      | asked signal => exact .asked rfl signal
      | runs progress =>
          cases permit with
          | true => exact .stops ⟨rfl, rfl⟩ rfl
          | false =>
              cases inFlight with
              | some client => cases progress <;> exact .goesOn ⟨rfl, rfl⟩ rfl _
              | none =>
                  cases waiting with
                  | nil => exact .idles ⟨rfl, rfl⟩ rfl rfl progress
                  | cons client rest => exact .starts ⟨rfl, rfl⟩ rfl rfl progress
      | acceptFails cause =>
          cases permit with
          | true => exact .stops ⟨rfl, rfl⟩ rfl
          | false =>
              cases inFlight with
              | some client => exact .busy ⟨rfl, rfl⟩ rfl cause
              | none => exact .misses ⟨rfl, rfl⟩ rfl cause

theorem step_asked (open_ : s.stopped = false) (signal : String) :
    s.step (.asked signal) =
      ({ s with shutdown := { permit := true } },
        Journal.ofAccess [Lifecycle.stopRequested signal]) := by
  rw [step, open_]
  rfl

theorem look_of_going (going : s.Going) (goesOn : Serving α → Serving α × Journal) :
    s.look goesOn = goesOn s := by
  obtain ⟨waiting, inFlight, ⟨permit⟩, stopped⟩ := s
  obtain ⟨rfl, rfl⟩ := going
  rfl

theorem look_of_asked (asked : s.Asked) (goesOn : Serving α → Serving α × Journal) :
    s.look goesOn =
      ({ s with inFlight := none, shutdown := {}, stopped := true },
        Journal.ofAccess [Lifecycle.stopped]) := by
  obtain ⟨waiting, inFlight, ⟨permit⟩, stopped⟩ := s
  obtain ⟨rfl, rfl⟩ := asked
  rfl

/-! ## Runs -/

theorem run_cons (s : Serving α) (e : Event α) (events : List (Event α)) :
    s.run (e :: events) =
      (((s.step e).1.run events).1, (s.step e).2 ++ ((s.step e).1.run events).2) := rfl

theorem access_append (a b : Journal) : (a ++ b).access = a.access ++ b.access := rfl

theorem errors_append (a b : Journal) : (a ++ b).errors = a.errors ++ b.errors := rfl

theorem turns_of_stopped (stopped : s.stopped = true) (events : List (Event α)) :
    s.turns events = [] := by
  induction events with
  | nil => rfl
  | cons e events ih =>
      have none_ : s.turn? e = none := by
        cases e <;> simp [turn?, stopped]
      rw [turns, none_, step_of_stopped stopped, ih]
      rfl

theorem journal_of_stopped (stopped : s.stopped = true) (events : List (Event α)) :
    (s.run events).2 = {} := by
  induction events with
  | nil => rfl
  | cons e events ih =>
      rw [run_cons, step_of_stopped stopped, ih]
      rfl

/-- **One client at a time is served.** -/
theorem inOrder_turns {inFlight : Option α} (served : s.inFlight = inFlight)
    (events : List (Event α)) : Turn.InOrder inFlight (s.turns events) := by
  induction events generalizing s inFlight with
  | nil => trivial
  | cons e events ih =>
      have happened := happens_step s e
      rw [turns]
      generalize s.turn? e = turn, (s.step e).1 = next, (s.step e).2 = journal at happened ⊢
      cases happened with
      | nothing | arrives | asked | idles | busy => exact ih served
      | stops =>
          rw [turns_of_stopped rfl]
          trivial
      | starts _ free => exact ⟨served.symm.trans free, ih rfl⟩
      | misses _ free => exact ⟨served.symm.trans free, ih free⟩
      | goesOn _ here => exact ⟨served.symm.trans here, ih rfl⟩

/-- **Clients are started in the order in which they came.** -/
theorem started_turns (s : Serving α) (events : List (Event α)) :
    (s.turns events).filterMap Turn.started? <+: s.waiting ++ events.filterMap Event.client? := by
  induction events generalizing s with
  | nil => exact List.nil_prefix
  | cons e events ih =>
      have happened := happens_step s e
      rw [turns]
      generalize s.turn? e = turn, (s.step e).1 = next, (s.step e).2 = journal at happened ⊢
      cases happened with
      | nothing stopped =>
          rw [turns_of_stopped stopped]
          exact List.nil_prefix
      | arrives _ client => simpa [Event.client?] using ih { s with waiting := s.waiting ++ [client] }
      | asked | idles | goesOn | busy | misses => exact ih _
      | stops =>
          rw [turns_of_stopped rfl]
          exact List.nil_prefix
      | @starts _ _ client rest first =>
          rw [first]
          exact List.cons_prefix_cons.2 ⟨rfl, ih _⟩

/-- **Once it was asked to stop, a server does nothing more with any client.**  It writes
down each further request, until it runs and stops. -/
theorem run_of_asked (asked : s.Asked) (events : List (Event α)) :
    s.turns events = [] ∧ (s.run events).1.stopped = events.any Event.isRuns ∧
      (s.run events).2.access =
        ((events.takeWhile (!·.isRuns)).filterMap Event.signal?).map Lifecycle.stopRequested ++
          if events.any Event.isRuns then [Lifecycle.stopped] else [] := by
  induction events generalizing s with
  | nil => exact ⟨rfl, asked.1, rfl⟩
  | cons e events ih =>
      have happened := happens_step s e
      rw [turns, run_cons]
      generalize s.turn? e = turn, (s.step e).1 = next, (s.step e).2 = journal at happened ⊢
      cases happened with
      | nothing stopped => exact absurd (stopped.symm.trans asked.1) Bool.noConfusion
      | arrives => exact ih asked
      | asked open_ signal =>
          obtain ⟨none_, stops, written⟩ := ih (s := { s with shutdown := { permit := true } })
            ⟨open_, rfl⟩
          refine ⟨none_, stops, ?_⟩
          rw [access_append, written]
          rfl
      | stops _ runs =>
          refine ⟨turns_of_stopped rfl _, ?_, ?_⟩
          · rw [run_of_stopped rfl, List.any_cons, runs]
            rfl
          · rw [journal_of_stopped rfl, List.any_cons, List.takeWhile_cons, runs]
            rfl
      | idles going | starts going | goesOn going | busy going | misses going =>
          exact absurd (asked.2.symm.trans going.2) Bool.noConfusion

/-- **What stands in the error log** is what the turns leave there. -/
theorem errors_run (s : Serving α) (events : List (Event α)) :
    (s.run events).2.errors = (s.turns events).flatMap (·.journal.errors) := by
  induction events generalizing s with
  | nil => rfl
  | cons e events ih =>
      have happened := happens_step s e
      rw [turns, run_cons, errors_append, List.flatMap_append, ← ih]
      generalize s.turn? e = turn, (s.step e).1 = next, (s.step e).2 = journal at happened ⊢
      cases happened with
      | nothing | arrives | asked | idles | busy | stops => rfl
      | starts | goesOn => simp [Turn.journal]
      | misses => rfl

/-- **What stands in the access log along a run**: what the requests leave that were served, each
request to stop, and that the server stopped. -/
theorem access_run (going : s.Going) (events : List (Event α)) :
    (s.run events).1.stopped = Event.closes events ∧
      (s.run events).2.access =
        (s.turns events).flatMap (·.journal.access) ++
          (Event.closing events).map Lifecycle.stopRequested ++
          if Event.closes events then [Lifecycle.stopped] else [] := by
  induction events generalizing s with
  | nil => exact ⟨going.1, rfl⟩
  | cons e events ih =>
      have happened := happens_step s e
      rw [turns, run_cons]
      generalize s.turn? e = turn, (s.step e).1 = next, (s.step e).2 = journal at happened ⊢
      cases happened with
      | nothing stopped => exact absurd (stopped.symm.trans going.1) Bool.noConfusion
      | arrives | idles | busy | misses => exact ih going
      | asked open_ signal =>
          obtain ⟨none_, stops, written⟩ :=
            run_of_asked (s := { s with shutdown := { permit := true } }) ⟨open_, rfl⟩ events
          refine ⟨stops, ?_⟩
          rw [access_append, none_, written]
          rfl
      | stops asked => exact absurd (asked.2.symm.trans going.2) Bool.noConfusion
      | starts => exact ih going
      | @goesOn _ client served progress =>
          obtain ⟨stops, written⟩ :=
            ih (s := { s with inFlight := if progress.isEnd then none else some client }) going
          refine ⟨stops, ?_⟩
          rw [access_append, written, ← List.append_assoc, ← List.append_assoc]
          rfl

/-- **Nothing is done with a client from the first request to stop on.** -/
theorem turns_asked (s : Serving α) (before after : List (Event α)) (signal : String) :
    s.turns (before ++ .asked signal :: after) = s.turns before := by
  induction before generalizing s with
  | nil =>
      rw [List.nil_append]
      rcases Bool.eq_false_or_eq_true s.stopped with stopped | open_
      · exact turns_of_stopped stopped _
      · have closed := (run_of_asked (s := { s with shutdown := { permit := true } })
          ⟨open_, rfl⟩ after).1
        change (s.step (.asked signal)).1.turns after = []
        rw [step_asked open_]
        exact closed
  | cons e before ih =>
      rw [List.cons_append, turns, turns, ih]

end Serving

end StaticPreview
