/-
# StaticPreview.Proofs.Server -- a server from its start to its end

Whatever happens to a server that has come up, in whatever order, its run is *serial*
(`Server.Serial`): clients are served one at a time, in the order in which they came, until
the first request to stop, and what stands in the access log is the banner, what the
requests left that were served, each request to stop that was made before the server
noticed, and at the end, once, that it stopped.  The error log has what went wrong with a
connection, and a line for each time that none could be taken up.  That is what `Serving` was
shown to do, and what the loop with its two waits does too.

The lines that the server writes of itself are spelt out here, the banner in `bannerLines`.

A server that does not come up leaves one entry in the error log and none in the access
log (`Program.unlogged`).  Both are together in `Server.serial_or_unlogged`.
-/
import StaticPreview.Program
import StaticPreview.Proofs.Outcome
import StaticPreview.Proofs.FileSystem.Growth
import StaticPreview.Proofs.Serving.Waits

namespace StaticPreview

namespace Server

variable {α : Type}

/-- The banner, line by line; a line that a server has no reason for is left out. -/
def bannerLines (s : Server) : List String :=
  [some "======================================",
    some "Preview server started",
    some ("Listening on: http://" ++ String.ofList s.address.text),
    if s.address.ip.isUnspecified then
      some ("Local:        http://localhost:" ++ numberText s.address.port.toNat)
    else none,
    some ("Serving:      " ++ Bytes.toStringLossy s.site.rootPath),
    some "Caching disabled; file changes show up on reload",
    if s.site.settings.preview.probePaths = [] then none
    else
      some ("Ignoring probe paths: " ++
        String.intercalate ", " s.site.settings.preview.probePaths),
    s.site.settings.logging.accessLogFile.map ("Access log: " ++ ·),
    s.site.settings.logging.errorLogFile.map ("Error log: " ++ ·),
    some "Press Ctrl+C to stop",
    some "======================================\n"].filterMap id

theorem filterMap_id_cons {β : Type} (line : Option β) (lines : List (Option β)) :
    (line :: lines).filterMap id = line.toList ++ lines.filterMap id := by
  cases line <;> rfl

/-- **The banner is written line by line as it is spelt out.** -/
theorem access_banner (s : Server) : s.banner.access = s.bannerLines := by
  have below : Lifecycle.rule ++ "\n" = "======================================\n" := by decide
  show Lifecycle.started s.address s.site.rootPath s.site.settings = _
  rw [Lifecycle.started, below]
  simp only [bannerLines, filterMap_id_cons, apply_ite Option.toList, Option.toList_some,
    Option.toList_none, Option.toList_map, List.filterMap_nil, List.append_nil]
  -- both sides are the same lines now, in groups and one by one
  repeat rw [List.append_assoc]
  rfl

/-- A run in which clients are served one at a time, until the server is asked to stop. -/
structure Serial (s : Server) (events : List (Event α)) : Prop where
  inOrder : Turn.InOrder none (Serving.turns {} events)
  started : (Serving.turns {} events).filterMap Turn.started? <+: events.filterMap Event.client?
  /-- Nothing is done with a client from a request to stop on. -/
  givenUp : ∀ before signal after, events = before ++ .asked signal :: after →
    Serving.turns {} events = Serving.turns {} before
  /-- The server stops when it runs for the first time after a request. -/
  stopped : (Serving.run {} events).1.stopped = Event.closes events
  access : (s.journal events).access =
    s.bannerLines ++ (Serving.turns {} events).flatMap (·.journal.access) ++
      (Event.closing events).map
        (fun signal => "\n[SIGNAL] " ++ signal ++ " received, shutting down...") ++
      if Event.closes events then ["Server stopped"] else []
  errors : (s.journal events).errors = (Serving.turns {} events).flatMap (·.journal.errors)
  /-- The loop with its two waits gets as far and writes down the same. -/
  waits : Serving.run {} events = ((Loop.run {} events).1.view, (Loop.run {} events).2)

/-- **Every run is serial.** -/
theorem serial (s : Server) (events : List (Event α)) : s.Serial events := by
  have going : Serving.Going ({} : Serving α) := ⟨rfl, rfl⟩
  obtain ⟨stopped, written⟩ := Serving.access_run going events
  refine ⟨Serving.inOrder_turns (s := {}) rfl events, Serving.started_turns {} events, ?_, stopped,
    ?_, Serving.errors_run {} events, Loop.run_eq events⟩
  · rintro before signal after rfl
    exact Serving.turns_asked {} before after signal
  · rw [journal, Serving.access_append, access_banner, written]
    simp only [List.append_assoc]
    rfl

end Server

namespace Program

/-- What the access log holds: what is in its file, or on the standard output. -/
def accessText (p : Program) : Bytes :=
  match p.logs.access with
  | none => Bytes.ofString p.stdout
  | some l =>
      match p.fs.find? l with
      | some { node := .file content, .. } => content
      | _ => []

/-- Whether no file is both logs. -/
def LogsApart (p : Program) : Prop := p.logs.access = none ∨ p.logs.access ≠ p.logs.errors

end Program

namespace Program

variable {fs : FileSystem} {arguments : List String} {environment : List (String × String)}
  {now : Time.Instant} {settings : Settings} {p : Program}
  {listen : SocketAddr → Except IoError SocketAddr} {e : StartupError}

/-- An entry of the error log leaves the access log as it is. -/
theorem accessText_writeError (apart : p.LogsApart) (entry : String) :
    (p.writeError now entry).accessText = p.accessText := by
  obtain ⟨fs, ⟨access, errors⟩, stdout, stderr⟩ := p
  cases errors with
  | none => rfl
  | some l =>
      cases access with
      | none => rfl
      | some m =>
          have other : m ≠ l := by
            rintro rfl
            rcases apart with streams | files
            · cases streams
            · exact files rfl
          simp only [accessText, writeError, LogFiles.writeLine,
            FileSystem.find?_append_of_ne fs other]

/-- A program that has read its arguments and its settings and has opened its logs, so that
it is ready to start its server. -/
structure Prepares (fs : FileSystem) (arguments : List String)
    (environment : List (String × String)) (now : Time.Instant) (settings : Settings)
    (p : Program) : Prop where
  loads : ∃ line, CommandLine.read arguments = .ok line ∧
    Settings.load fs line.config environment line.overrides = .ok settings
  opens : LogFiles.openAll fs none settings.logging now = (p.fs, .ok p.logs)
  silent : p.stdout = "" ∧ p.stderr = ""

/-- What becomes of a program that is ready is what becomes of its server. -/
theorem start_of_prepares (prepared : Prepares fs arguments environment now settings p)
    (listen : SocketAddr → Except IoError SocketAddr) :
    start fs arguments environment listen now =
      match Server.start p.fs settings listen with
      | .error e => (p.writeError now (Notice.error e.message).line, .ends 1)
      | .ok server => (p.write now server.banner, .serves server) := by
  obtain ⟨files, logs, stdout, stderr⟩ := p
  obtain ⟨⟨line, read, loaded⟩, opened, rfl, rfl⟩ := prepared
  simp only [start, read, loaded, opened]
  rfl

/-- **A program whose server does not come up ends with one entry in the error log**, and
leaves the access log as it was opened. -/
theorem unlogged (prepared : Prepares fs arguments environment now settings p)
    (failed : Server.start p.fs settings listen = .error e) :
    ∃ entry, start fs arguments environment listen now = (p.writeError now entry, .ends 1) ∧
      (p.LogsApart → (p.writeError now entry).accessText = p.accessText) := by
  refine ⟨(Notice.error e.message).line, ?_, fun apart => accessText_writeError apart _⟩
  rw [start_of_prepares prepared, failed]

end Program

/-- **A server that has come up serves one client at a time until it is asked to stop, and
the access log tells of it from the banner to the end.**  Of one that does not come up, for
its directory, for its address or because it cannot listen there, the access log tells
nothing. -/
theorem Server.serial_or_unlogged :
    (∀ (α : Type) (s : Server) (events : List (Event α)), s.Serial events) ∧
      ∀ (fs : FileSystem) (arguments : List String) (environment : List (String × String))
        (now : Time.Instant) (settings : Settings) (p : Program)
        (listen : SocketAddr → Except IoError SocketAddr) (e : StartupError),
        Program.Prepares fs arguments environment now settings p →
        Server.start p.fs settings listen = .error e →
          ∃ entry,
            Program.start fs arguments environment listen now = (p.writeError now entry, .ends 1) ∧
              (p.LogsApart → (p.writeError now entry).accessText = p.accessText) :=
  ⟨fun _ s events => s.serial events,
    fun _ _ _ _ _ _ _ _ prepared failed => Program.unlogged prepared failed⟩

namespace Example

/-- A server that listens on all addresses of the machine and has both logs in files. -/
def listening : Server where
  site :=
    { settings :=
        { logging := { accessLogFile := some "access.log", errorLogFile := some "error.log" } }
      root := [Bytes.ofString "srv"] }
  address := { ip := .v4 0 0 0 0, port := 8081 }

/-- An operating system that lets nobody listen. -/
def refuses (_ : SocketAddr) : Except IoError SocketAddr := .error (.text "no")

/-- The answer to a client, with its line. -/
def answered (line : String) : Progress :=
  .answers { response := { status := 200 }, journal := Journal.ofAccess [line] }

/-- Two clients, the second after a failure of the operating system, which is still served when
the server is asked to stop, and asked again, and a third that comes too late. -/
def twoClients : List (Event Nat) :=
  [.runs .waits, .arrives 1, .arrives 2, .runs .waits, .acceptFails (.code 24),
    .runs (answered "first"), .runs (.ends []), .acceptFails (.code 24), .runs .waits, .runs .waits,
    .asked "SIGINT", .arrives 3, .asked "SIGTERM", .runs (answered "second"), .asked "SIGINT",
    .runs .waits]

end Example

/-- What the second client would have been answered is not written down, and neither is a
request to stop that comes when the server has stopped, nor a failure to take somebody up
while the first client was served.  A program that may not listen says nothing in its access
log. -/
theorem Server.serial_or_unlogged_twoClients :
    (Example.listening.journal Example.twoClients).access =
        ["======================================", "Preview server started",
          "Listening on: http://0.0.0.0:8081", "Local:        http://localhost:8081",
          "Serving:      /srv", "Caching disabled; file changes show up on reload",
          "Ignoring probe paths: /@vite/client", "Access log: access.log",
          "Error log: error.log", "Press Ctrl+C to stop",
          "======================================\n", "first",
          "\n[SIGNAL] SIGINT received, shutting down...",
          "\n[SIGNAL] SIGTERM received, shutting down...", "Server stopped"] ∧
      (Example.listening.journal Example.twoClients).errors =
        ["[ERROR] Failed to accept connection: Too many open files (os error 24)"] ∧
      ∃ q, Program.start {} [] [] Example.refuses (.ofSeconds 0) = (q, .ends 1) ∧
        q.accessText = [] := by
  obtain ⟨serial, unlogged⟩ := serial_or_unlogged
  have turns : Serving.turns {} Example.twoClients =
      [.starts 1, .goesOn 1 (Example.answered "first"), .goesOn 1 (.ends []),
        .misses (.code 24), .starts 2, .goesOn 2 .waits] := by
    decide +kernel
  have twoClients := serial Nat Example.listening Example.twoClients
  refine ⟨?_, ?_, ?_⟩
  · have banner : Example.listening.bannerLines =
        ["======================================", "Preview server started",
          "Listening on: http://0.0.0.0:8081", "Local:        http://localhost:8081",
          "Serving:      /srv", "Caching disabled; file changes show up on reload",
          "Ignoring probe paths: /@vite/client", "Access log: access.log",
          "Error log: error.log", "Press Ctrl+C to stop",
          "======================================\n"] := by
      decide +kernel
    have closing : Event.closing Example.twoClients = ["SIGINT", "SIGTERM"] := rfl
    rw [twoClients.access, banner, turns, closing, List.append_assoc, List.append_assoc]
    rfl
  · rw [twoClients.errors, turns]
    decide +kernel
  · have loaded : Settings.load {} "preview.toml" [] {} = .ok Settings.standard :=
      eq_ok_of_toOption (by decide +kernel)
    have prepared : Program.Prepares {} [] [] (.ofSeconds 0) Settings.standard { fs := {} } :=
      ⟨⟨{}, rfl, loaded⟩, rfl, rfl, rfl⟩
    have refused : (start {} Settings.standard Example.refuses).toOption = none := by
      decide +kernel
    obtain ⟨e, failed⟩ := exists_of_toOption_eq_none refused
    obtain ⟨entry, ended, silent⟩ :=
      unlogged {} [] [] (.ofSeconds 0) Settings.standard { fs := {} } _ e prepared failed
    exact ⟨_, ended, silent (Or.inl rfl)⟩

end StaticPreview
