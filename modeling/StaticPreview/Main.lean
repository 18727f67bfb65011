/-
# StaticPreview.Main -- the program

The shell around the library: it looks at the machine, asks the library what to do,
and does it.  What it does by itself is opening files and connections, waiting, and
writing; every decision is taken elsewhere.
-/
import StaticPreview.Disk
import StaticPreview.Program
import StaticPreview.Wire.Message
import Std.Async
import Std.Time

namespace StaticPreview.Main

open Std.Async

/-! ## The machine -/

/-- A failure by its number, which may be given with its sign turned. -/
def numbered (n : UInt32) : IoError :=
  .code (if n.toNat < 2147483648 then n.toNat else 4294967296 - n.toNat)

/-- The number that the operating system gives to a failure, or its words. -/
def ioError : IO.Error → IoError
  | .alreadyExists _ n _ => numbered n
  | .inappropriateType _ n _ => numbered n
  | .interrupted _ n _ => numbered n
  | .invalidArgument _ n _ => numbered n
  | .noFileOrDirectory _ n _ => numbered n
  | .noSuchThing _ n _ => numbered n
  | .permissionDenied _ n _ => numbered n
  | .resourceExhausted _ n _ => numbered n
  | .hardwareFault n _ => numbered n
  | .illegalOperation n _ => numbered n
  | .otherError n _ => numbered n
  | .protocolError n _ => numbered n
  | .resourceBusy n _ => numbered n
  | .resourceVanished n _ => numbered n
  | .timeExpired n _ => numbered n
  | .unsatisfiedConstraints n _ => numbered n
  | .unsupportedOperation n _ => numbered n
  | .unexpectedEof => .kind .unexpectedEnd
  | .userError s => .text s

/-- What an action gives, or why it fails. -/
def attempt {α : Type} (action : IO α) : IO (Except IoError α) := do
  try
    let a ← action
    pure (.ok a)
  catch e => pure (.error (ioError e))

/-- The time and how far the local clock is ahead. -/
def now : IO Time.Stamp := do
  let t ← Std.Time.Timestamp.now
  let rules ← try some <$> Std.Time.Database.defaultGetLocalZoneRules catch _ => pure none
  let offset := rules.map fun r => (r.findLocalTimeTypeForTimestamp t).gmtOffset.second.val
  let instant := Time.Instant.ofNanoseconds t.toNanosecondsSinceUnixEpoch.val
  pure { instant, offset := offset.getD 0 }

/-- The text of the date that goes with a response. -/
def dateText (t : Time.Stamp) : String :=
  match t.instant.httpDate with
  | .ok s => s
  | .error _ => ""

/-! ## Logs -/

/-- Where the two logs go; none is a standard stream. -/
structure Logs where
  access : Option IO.FS.Handle := none
  errors : Option IO.FS.Handle := none

/-- Entries written to a file or a stream. -/
def writeEntries (file : Option IO.FS.Handle) (standard : IO IO.FS.Stream)
    (entries : List String) : IO Unit := do
  if entries.isEmpty then return
  let out ← match file with
    | some h => pure (IO.FS.Stream.ofHandle h)
    | none => standard
  out.putStr (Journal.textOf entries)
  out.flush

/-- What is written down. -/
def Logs.write (logs : Logs) (journal : Journal) : IO Unit := do
  writeEntries logs.errors IO.getStderr journal.errors
  writeEntries logs.access IO.getStdout journal.access

/-- A log file opened, with the directories above it, if one is named. -/
def openLog (path : Option String) : IO (Except IoError (Option IO.FS.Handle)) := do
  match path with
  | none => pure (.ok none)
  | some path =>
      let parent := ((Path.parent? (Bytes.ofString path)).getD []).toStringLossy
      attempt do
        if parent ≠ "" then IO.FS.createDirAll parent
        some <$> IO.FS.Handle.mk path .append

/-- Both logs opened, the access log first. -/
def openLogs (settings : Settings.Logging) : IO (Except IoError Logs) := do
  match ← openLog settings.accessLogFile with
  | .error e => pure (.error e)
  | .ok access =>
      match ← openLog settings.errorLogFile with
      | .error e => pure (.error e)
      | .ok errors => pure (.ok { access, errors })

/-! ## Addresses -/

/-- An address as sockets take it. -/
def toSocket (a : SocketAddr) : Std.Net.SocketAddress :=
  match a.ip with
  | .v4 b c d e => .v4 { addr := ⟨#v[b, c, d, e]⟩, port := a.port }
  | .v6 b c d e f g h i => .v6 { addr := ⟨#v[b, c, d, e, f, g, h, i]⟩, port := a.port }

/-- An address as sockets give it. -/
def ofSocket : Std.Net.SocketAddress → SocketAddr
  | .v4 a =>
      let o := a.addr.octets
      { ip := .v4 o[0] o[1] o[2] o[3], port := a.port }
  | .v6 a =>
      let s := a.addr.segments
      { ip := .v6 s[0] s[1] s[2] s[3] s[4] s[5] s[6] s[7], port := a.port }

/-- A socket that listens on an address, with the address that it listens on. -/
def listen (a : SocketAddr) : IO (TCP.Socket.Server × SocketAddr) := do
  let socket ← TCP.Socket.Server.mk
  socket.bind (toSocket a)
  socket.listen 128
  pure (socket, ofSocket (← socket.getSockName))

/-! ## Connections -/

/-- A client with its connection. -/
structure Client where
  connection : TCP.Socket.Client
  peer : SocketAddr

/-- What a server works with. -/
structure Shell where
  server : Server
  socket : TCP.Socket.Server
  logs : Logs
  interrupt : Signal.Waiter
  terminate : Signal.Waiter

/-- The file system as far as the answer to a request can depend on it. -/
def lookAt (server : Server) (request : Request) : IO FileSystem := do
  let target := (Target.resolve server.site.rootPath request.target).fsPath
  let mut fs ← Disk.visitBytes true (← Disk.start) target
  if fs.leadsToDirectory target then
    fs ← Disk.visitDirectory fs target
    for name in server.site.settings.preview.indexFiles do
      fs ← Disk.visitBytes true fs (Path.push target (Bytes.ofString name))
  pure fs

/-- What comes of handling a request. -/
def answer (server : Server) (request : Request) (time : Time.Stamp) : IO Site.Exchange := do
  let start ← IO.monoNanosNow
  let fs ← lookAt server request
  let micros := ((← IO.monoNanosNow) - start) / 1000
  match server.site.handle fs request { time, micros } with
  | .ok exchange => pure exchange
  | .error _ => throw (IO.userError "the time of a file has no date")

/-- What comes of waiting for a client. -/
inductive Received where
  | signal (name : String)
  | bytes (data : Bytes)
  | closed
  | late

/-- The ways in which a wait ends with a signal. -/
def Shell.signals {α : Type} (sh : Shell) (f : String → α) : Array (Selectable α) :=
  #[.case sh.interrupt.selector fun _ => pure (f "SIGINT"),
    .case sh.terminate.selector fun _ => pure (f "SIGTERM")]

/-- What comes next from a client, for so many milliseconds. -/
def receive (sh : Shell) (client : Client) (millis : Nat) : Async Received := do
  let sleep ← Selector.sleep (Std.Time.Millisecond.Offset.ofNat millis)
  Selectable.one (sh.signals .signal ++ #[
    .case (client.connection.recvSelector 65536) fun data =>
      pure (match data with
        | some data => .bytes data.toList
        | none => .closed),
    .case sleep fun _ => pure .late])

/-- A server after an event, of which it is written down what there is to it. -/
def happen (sh : Shell) (s : Serving Client) (e : Event Client) : IO (Serving Client) := do
  let (s, journal) := s.step e
  sh.logs.write journal
  pure s

/-- A server after a signal, which it notices at once. -/
def signalled (sh : Shell) (s : Serving Client) (name : String) : IO (Serving Client) := do
  happen sh (← happen sh s (.asked name)) (.runs .waits)

/-- The last bytes sent to a client, whether it still takes them or not. -/
def send (client : Client) (data : Bytes) : Async Unit := do
  try
    client.connection.send (ByteArray.mk data.toArray)
    client.connection.shutdown
  catch _ => pure ()

/-- The longest time that a client is waited for, in milliseconds. -/
def longestWait : Nat := 1099511627776

/-- A server after it has served the client whose connection is in flight, or has been
asked to stop meanwhile. -/
partial def exchange (sh : Shell) (client : Client) (start : Nat) (soFar : Bytes)
    (s : Serving Client) : Async (Serving Client) := do
  let ends (notices : List Notice) : IO (Serving Client) := happen sh s (.runs (.ends notices))
  match Wire.readHead client.peer soFar with
  | .done request _ =>
      let time ← now
      let x ← answer sh.server request time
      let s ← happen sh s (.runs (.answers x))
      send client (Wire.ofResponse request x.response (dateText time))
      happen sh s (.runs (.ends []))
  | .refused refusal =>
      send client (Wire.ofRefusal refusal (dateText (← now)))
      ends [.connectionFailed refusal.description]
  | .more =>
      let seconds := sh.server.site.settings.performance.requestTimeout.toNat
      let limit := min (seconds * 1000) longestWait
      let spent := (← IO.monoMsNow) - start
      match ← receive sh client (limit - spent) with
      | .signal name => signalled sh s name
      | .bytes data => exchange sh client start (soFar ++ data) s
      | .closed =>
          if soFar.isEmpty then ends [] else ends [.connectionFailed Wire.brokenOff]
      | .late => ends [sh.server.timedOut client.peer]

/-- The next thing that happens while no connection is in flight.  That no client can be
accepted is one of them. -/
def nextEvent (sh : Shell) : Async (Event Client) := do
  try
    Selectable.one (sh.signals .asked ++ #[
      .case sh.socket.acceptSelector fun connection => do
        let peer ← connection.getPeerName
        pure (.arrives { connection, peer := ofSocket peer })])
  catch e => pure (.acceptFails (ioError e))

/-- A server after the next thing that happens while no connection is in flight. -/
def wait (sh : Shell) (s : Serving Client) : Async (Serving Client) := do
  happen sh (← happen sh s (← nextEvent sh)) (.runs .waits)

/-- A server that goes on until it has stopped. -/
partial def serve (sh : Shell) (s : Serving Client) : Async Unit := do
  if s.stopped then return
  match s.inFlight with
  | none => serve sh (← wait sh s)
  | some client => serve sh (← exchange sh client (← IO.monoMsNow) [] s)

/-! ## The start -/

/-- The settings of arguments, from the settings file and the environment. -/
def loadSettings (line : CommandLine) : IO (Except StartupError Settings) := do
  let environment ← Std.Internal.UV.System.osEnviron
  let fs ← Disk.start
  let name := Path.push fs.workingDirectory.path (Bytes.ofString line.config)
  let candidates :=
    name :: Settings.File.formats.filterMap fun (e, _) => Settings.File.withExtension? name e
  let fs ← candidates.foldlM (Disk.visitBytes true) fs
  pure ((Settings.load fs line.config environment.toList line.overrides).mapError .settings)

/-- A server that comes up, with its socket. -/
def startServer (settings : Settings) :
    IO (Except StartupError (Server × Option TCP.Socket.Server)) := do
  let fs ← Disk.visitBytes false (← Disk.start) (Bytes.ofString settings.server.root)
  match Server.start fs settings .ok with
  | .error e => pure (.error e)
  | .ok asked =>
      let opened ← attempt (listen asked.address)
      pure ((Server.start fs settings fun _ => opened.map Prod.snd).map fun server =>
        (server, opened.toOption.map Prod.fst))

/-- The exit code of the program when it fails to start. -/
def fail (logs : Logs) (e : StartupError) : IO UInt32 := do
  logs.write (Journal.ofNotices [.error e.message])
  pure 1

/-- The program with arguments that are not refused. -/
def runWith (line : CommandLine) : IO UInt32 := do
  match ← loadSettings line with
  | .error e => fail {} e
  | .ok settings =>
      match ← openLogs settings.logging with
      | .error e => fail {} (.log e)
      | .ok logs =>
          match ← startServer settings with
          | .error e => fail logs e
          | .ok (_, none) => pure 1
          | .ok (server, some socket) =>
              logs.write server.banner
              let interrupt ← Signal.Waiter.mk .sigint true
              let terminate ← Signal.Waiter.mk .sigterm true
              (serve { server, socket, logs, interrupt, terminate } {}).block
              pure 0

end StaticPreview.Main

open StaticPreview in
/-- The program. -/
def main (arguments : List String) : IO UInt32 := do
  match CommandLine.read arguments with
  | .error .help =>
      (← IO.getStdout).putStr CommandLine.Refusal.help.message
      pure 0
  | .error refusal =>
      (← IO.getStderr).putStrLn refusal.message
      pure 2
  | .ok line => StaticPreview.Main.runWith line
