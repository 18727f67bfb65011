/-
# StaticPreview.Proofs.Serving.Waits -- two waits, one inside the other

A server that looks for a request to stop is never without a wait for it: one while it
waits for a client (`Place.accepting`), and a new one, inside, while a client is served.
Each is given up when the server gets to the other, so a request may come while the one is
not yet listened to and the other no more, or may have been told to a wait that is given up.

`Loop` is the server with its waits.  A request rings a `Bell`: whoever listens is told,
and a permit is left when nobody does, so that the next wait is over at once; a wait that
was told and is given up leaves the permit again.  A request that was made is thus pending
in one of two ways until it is noticed, and which of them it is makes no difference
(`Bell.look_eq`, `Bell.pending_giveUp`): the loop does what `Serving` does with a permit
alone, event by event (`view_step`) and so along every run (`view_run`).
-/
import StaticPreview.Proofs.Serving.Turns

namespace StaticPreview

/-! ## The bell -/

/-- What is rung by a request to stop. -/
structure Bell where
  /-- Whether it was rung while nobody listened. -/
  permit : Bool := false
  /-- Whether the one who listens was told, if anybody does. -/
  listener : Option Bool := none
  deriving DecidableEq, Repr

namespace Bell

variable {b : Bell}

/-- Rung: the one who listens is told, else a permit is left, and never more than one. -/
def ring (b : Bell) : Bell :=
  match b.listener with
  | some false => { b with listener := some true }
  | _ => { b with permit := true }

/-- Whether a wait is over that is looked at.  One that is looked at for the first time
takes the permit, and listens when there is none. -/
def look (b : Bell) : Bool × Bell :=
  match b.listener with
  | some true => (true, { b with listener := none })
  | some false => (false, b)
  | none =>
      if b.permit then (true, { b with permit := false })
      else (false, { b with listener := some false })

/-- A wait that is given up; what it was told is passed on. -/
def giveUp (b : Bell) : Bell :=
  match b.listener with
  | some true => { permit := true, listener := none }
  | _ => { b with listener := none }

/-- Whether a request is still to be noticed. -/
def pending (b : Bell) : Bool := b.permit || b.listener == some true

/-- Nobody listens in vain: there is no permit while a wait was not told. -/
def Sound (b : Bell) : Prop := b.listener = some false → b.permit = false

theorem pending_ring (b : Bell) : b.ring.pending = true := by
  obtain ⟨permit, _ | told⟩ := b
  · rfl
  · cases told <;> simp [ring, pending]

/-- **A wait is over exactly when a request is still to be noticed.** -/
theorem look_eq (sound : b.Sound) : b.look.1 = b.pending := by
  obtain ⟨permit, _ | told⟩ := b
  · cases permit <;> rfl
  · cases told with
    | true => simp [look, pending]
    | false =>
        have none_ : permit = false := sound rfl
        rw [none_]
        rfl

theorem pending_look (waits : b.look.1 = false) (sound : b.Sound) : b.look.2.pending = false := by
  have nothing := (look_eq sound).symm.trans waits
  obtain ⟨permit, _ | told⟩ := b
  · cases permit with
    | true => cases nothing
    | false => rfl
  · cases told with
    | true => cases waits
    | false => exact nothing

/-- **Nothing is lost with a wait that is given up.** -/
theorem pending_giveUp (b : Bell) : b.giveUp.pending = b.pending := by
  obtain ⟨permit, _ | told⟩ := b
  · rfl
  · cases told <;> cases permit <;> rfl

theorem sound_ring (b : Bell) : b.ring.Sound := by
  obtain ⟨permit, _ | told⟩ := b
  · simp [ring, Sound]
  · cases told <;> simp [ring, Sound]

theorem sound_look (sound : b.Sound) : b.look.2.Sound := by
  obtain ⟨permit, _ | told⟩ := b
  · cases permit <;> simp [look, Sound]
  · cases told with
    | true => simp [look, Sound]
    | false => exact sound

theorem sound_giveUp (b : Bell) : b.giveUp.Sound := by
  obtain ⟨permit, _ | told⟩ := b
  · simp [giveUp, Sound]
  · cases told <;> simp [giveUp, Sound]

end Bell

/-! ## The loop -/

/-- Where the loop is. -/
inductive Place (α : Type) where
  /-- In the outer wait, for a client or a request to stop. -/
  | accepting
  /-- In the inner wait, for this client or a request to stop. -/
  | serving (client : α)
  /-- Behind the loop. -/
  | left
  deriving DecidableEq, Repr

namespace Place

variable {α : Type}

/-- The client that is served there. -/
def inFlight : Place α → Option α
  | .serving client => some client
  | _ => none

/-- Whether the loop has been left. -/
def isLeft : Place α → Bool
  | .left => true
  | _ => false

end Place

/-- A server with the wait that it is in. -/
structure Loop (α : Type) where
  bell : Bell := {}
  place : Place α := .accepting
  /-- The clients that have arrived, first come first. -/
  waiting : List α := []
  deriving DecidableEq, Repr

namespace Loop

variable {α : Type} {l : Loop α}

/-- The loop goes on: the outer wait is given up for the inner one when there is a client,
and the inner one for a new outer one when its connection is over. -/
def advance (l : Loop α) (progress : Progress) : Loop α × Journal :=
  match l.place with
  | .left => (l, {})
  | .accepting =>
      match l.waiting with
      | [] => (l, {})
      | client :: rest =>
          ({ bell := l.bell.giveUp, place := .serving client, waiting := rest }, {})
  | .serving _ =>
      if progress.isEnd then
        ({ l with bell := l.bell.giveUp, place := .accepting }, progress.journal)
      else (l, progress.journal)

/-- The loop gets a failure instead of a client: the outer wait is given up for a new one. -/
def miss (l : Loop α) (cause : IoError) : Loop α × Journal :=
  match l.place with
  | .accepting => ({ l with bell := l.bell.giveUp }, Journal.ofNotices [.acceptFailed cause])
  | .serving _ | .left => (l, {})

/-- The loop when it runs: it looks at its wait before anything else. -/
def look (l : Loop α) (goesOn : Loop α → Loop α × Journal) : Loop α × Journal :=
  let (noticed, bell) := l.bell.look
  if noticed then ({ l with bell, place := .left }, Journal.ofAccess [Lifecycle.stopped])
  else goesOn { l with bell }

/-- The loop after one event, and what is written down. -/
def step (l : Loop α) (e : Event α) : Loop α × Journal :=
  if l.place.isLeft then (l, {})
  else
    match e with
    | .arrives client => ({ l with waiting := l.waiting ++ [client] }, {})
    | .asked signal =>
        ({ l with bell := l.bell.ring }, Journal.ofAccess [Lifecycle.stopRequested signal])
    | .runs progress => l.look fun l => l.advance progress
    | .acceptFails cause => l.look fun l => l.miss cause

/-- The loop after some events, and what is written down. -/
def run (l : Loop α) : List (Event α) → Loop α × Journal
  | [] => (l, {})
  | e :: events =>
      let (l, journal) := l.step e
      let (l, rest) := l.run events
      (l, journal ++ rest)

/-- The loop without its waits. -/
def view (l : Loop α) : Serving α where
  waiting := l.waiting
  inFlight := l.place.inFlight
  shutdown := { permit := !l.place.isLeft && l.bell.pending }
  stopped := l.place.isLeft

theorem view_advance {progress : Progress} (inside : l.place.isLeft = false)
    (nothing : l.bell.pending = false) :
    l.view.advance progress = ((l.advance progress).1.view, (l.advance progress).2) := by
  obtain ⟨bell, place, waiting⟩ := l
  have passed := Bell.pending_giveUp bell
  cases place with
  | left => cases inside
  | accepting =>
      cases waiting with
      | nil => rfl
      | cons client rest =>
          simp [view, advance, Serving.advance, Place.inFlight, Place.isLeft, passed]
  | serving client =>
      cases progress with
      | waits | answers x => rfl
      | ends notices =>
          simp [view, advance, Serving.advance, Place.inFlight, Place.isLeft, passed,
            Progress.isEnd, Progress.journal]

theorem view_miss {cause : IoError} (inside : l.place.isLeft = false) :
    l.view.miss cause = ((l.miss cause).1.view, (l.miss cause).2) := by
  obtain ⟨bell, place, waiting⟩ := l
  have passed := Bell.pending_giveUp bell
  cases place with
  | left => cases inside
  | accepting => simp [view, miss, Serving.miss, Place.inFlight, Place.isLeft, passed]
  | serving client => rfl

theorem step_of_left (left : l.place.isLeft = true) (e : Event α) : l.step e = (l, {}) := by
  simp [step, left]

theorem sound_advance (sound : l.bell.Sound) (progress : Progress) :
    (l.advance progress).1.bell.Sound := by
  unfold advance
  split
  · exact sound
  · split
    · exact sound
    · exact Bell.sound_giveUp _
  · split
    · exact Bell.sound_giveUp _
    · exact sound

theorem sound_miss (sound : l.bell.Sound) (cause : IoError) : (l.miss cause).1.bell.Sound := by
  unfold miss
  split
  · exact Bell.sound_giveUp _
  · exact sound
  · exact sound

/-- A loop that goes on as the server does looks at its wait as the server looks for a
permit. -/
theorem view_look (inside : l.place.isLeft = false) (sound : l.bell.Sound)
    {f : Loop α → Loop α × Journal} {g : Serving α → Serving α × Journal}
    (alike : ∀ l' : Loop α, l'.place.isLeft = false → l'.bell.Sound → l'.bell.pending = false →
      g l'.view = ((f l').1.view, (f l').2) ∧ (f l').1.bell.Sound) :
    l.view.look g = ((l.look f).1.view, (l.look f).2) ∧ (l.look f).1.bell.Sound := by
  have open_ : l.view.stopped = false := inside
  have told := Bell.look_eq sound
  cases noticed : l.bell.look.1 with
  | true =>
      have pending : l.view.shutdown.permit = true := by
        simp [view, inside, ← told, noticed]
      have left : l.look f = ({ l with bell := l.bell.look.2, place := .left },
          Journal.ofAccess [Lifecycle.stopped]) := by
        simp [look, noticed]
      rw [Serving.look_of_asked ⟨open_, pending⟩, left]
      exact ⟨rfl, Bell.sound_look sound⟩
  | false =>
      have going : l.view.Going := ⟨open_, by simp [view, ← told, noticed]⟩
      have nothing := Bell.pending_look noticed sound
      have same : l.view = view { l with bell := l.bell.look.2 } := by
        simp [view, nothing, ← told, noticed]
      have moved : l.look f = f { l with bell := l.bell.look.2 } := by
        simp [look, noticed]
      rw [Serving.look_of_going going, moved, same]
      exact alike _ inside (Bell.sound_look sound) nothing

/-- **Which wait the loop is in makes no difference.** -/
theorem view_step (sound : l.bell.Sound) (e : Event α) :
    l.view.step e = ((l.step e).1.view, (l.step e).2) ∧ (l.step e).1.bell.Sound := by
  cases inside : l.place.isLeft with
  | true =>
      have stopped : l.view.stopped = true := inside
      rw [Serving.step_of_stopped stopped, step_of_left inside]
      exact ⟨rfl, sound⟩
  | false =>
      have open_ : l.view.stopped = false := inside
      cases e with
      | arrives client => simp [step, Serving.step, view, inside, sound]
      | asked signal =>
          simp [step, Serving.step, Shutdown.request, view, inside, Bell.pending_ring,
            Bell.sound_ring]
      | runs progress =>
          simp only [step, Serving.step, open_, inside, Bool.false_eq_true, if_false]
          refine view_look inside sound ?_
          intro l' inside' sound' nothing
          exact ⟨view_advance inside' nothing, sound_advance sound' progress⟩
      | acceptFails cause =>
          simp only [step, Serving.step, open_, inside, Bool.false_eq_true, if_false]
          refine view_look inside sound ?_
          intro l' inside' sound' _
          exact ⟨view_miss inside', sound_miss sound' cause⟩

/-- **The loop with its two waits does what the server does with a permit alone.** -/
theorem view_run (sound : l.bell.Sound) (events : List (Event α)) :
    l.view.run events = ((l.run events).1.view, (l.run events).2) := by
  induction events generalizing l with
  | nil => rfl
  | cons e events ih =>
      obtain ⟨stepped, later⟩ := view_step sound e
      rw [Serving.run_cons, stepped, ih later]
      rfl

/-- From its start on, the loop writes down what the server does. -/
theorem run_eq (events : List (Event α)) :
    Serving.run {} events = ((run {} events).1.view, (run {} events).2) :=
  view_run (l := {}) (fun listens => by cases listens) events

end Loop

end StaticPreview
