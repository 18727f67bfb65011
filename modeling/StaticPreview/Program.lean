/-
# StaticPreview.Program -- the program as a whole

The program reads its arguments, loads its settings, opens its logs and starts its
server, and ends at the first of these that fails: with exit code 2 when the arguments
are refused, and with exit code 1 and an error in the error log otherwise.  As long as
the logs are not open they go to the standard streams.
-/
import StaticPreview.CommandLine
import StaticPreview.LogFiles
import StaticPreview.Server
import StaticPreview.Settings.Load

namespace StaticPreview

/-- The part of the arguments that wins over all other settings. -/
def CommandLine.overrides (line : CommandLine) : Settings.Overrides where
  host := line.host
  port := line.port
  root := line.root

/-- What the program leaves behind. -/
structure Program where
  fs : FileSystem
  logs : LogFiles := {}
  stdout : String := ""
  stderr : String := ""

namespace Program

/-- What becomes of the program when it has started. -/
inductive Outcome where
  /-- It ends with an exit code. -/
  | ends (code : UInt8)
  /-- It serves. -/
  | serves (server : Server)
  deriving DecidableEq, Repr

/-- The program after an entry of the access log. -/
def writeAccess (now : Time.Instant) (p : Program) (entry : String) : Program :=
  let (fs, shown) := LogFiles.writeLine p.fs p.logs.access now entry
  { p with fs, stdout := p.stdout ++ shown }

/-- The program after an entry of the error log. -/
def writeError (now : Time.Instant) (p : Program) (entry : String) : Program :=
  let (fs, shown) := LogFiles.writeLine p.fs p.logs.errors now entry
  { p with fs, stderr := p.stderr ++ shown }

/-- The program after what is written down about one thing that happened. -/
def write (p : Program) (now : Time.Instant) (journal : Journal) : Program :=
  journal.access.foldl (writeAccess now) (journal.errors.foldl (writeError now) p)

/-- The program when it fails to start. -/
def fail (p : Program) (now : Time.Instant) (e : StartupError) : Program × Outcome :=
  (p.write now (Journal.ofNotices [.error e.message]), .ends 1)

/-- The program when its arguments are refused.  Asking for help is no failure. -/
def refuse (p : Program) (refusal : CommandLine.Refusal) : Program × Outcome :=
  if refusal = .help then ({ p with stdout := p.stdout ++ refusal.message }, .ends 0)
  else ({ p with stderr := p.stderr ++ refusal.message ++ "\n" }, .ends 2)

/-- The program after its start, with its arguments, the variables of its environment and
the operating system's answer to listening. -/
def start (fs : FileSystem) (arguments : List String) (environment : List (String × String))
    (listen : SocketAddr → Except IoError SocketAddr) (now : Time.Instant) : Program × Outcome :=
  match CommandLine.read arguments with
  | .error refusal => refuse { fs } refusal
  | .ok line =>
      match Settings.load fs line.config environment line.overrides with
      | .error fault => fail { fs } now (.settings fault)
      | .ok settings =>
          match LogFiles.openAll fs none settings.logging now with
          | (fs, .error e) => fail { fs } now (.log e)
          | (fs, .ok logs) =>
              match Server.start fs settings listen with
              | .error e => fail { fs, logs } now e
              | .ok server => (({ fs, logs } : Program).write now server.banner, .serves server)

end Program

end StaticPreview
