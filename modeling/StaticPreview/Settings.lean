/-
# StaticPreview.Settings -- what can be set

The settings come in four sections.  Every one of them has a default, so the
server can be run without any being given (`Settings.standard`).
-/
import StaticPreview.Pieces
import StaticPreview.StartupError

namespace StaticPreview

namespace Settings

/-- Where to listen and what to serve. -/
structure Server where
  host : String := "0.0.0.0"
  port : UInt16 := 8081
  /-- The directory that is served. -/
  root : String := "."
  deriving DecidableEq, Repr

/-- What is written down, how and where. -/
structure Logging where
  /-- Whether requests are written down. -/
  accessLog : Bool := true
  /-- The format of access lines, by name or as a pattern. -/
  accessLogFormat : String := "common"
  /-- The file of the access log; none is the standard output. -/
  accessLogFile : Option String := none
  /-- The file of the error log; none is the standard error output. -/
  errorLogFile : Option String := none
  deriving DecidableEq, Repr

/-- How targets are treated. -/
structure Preview where
  /-- The texts that make a target one that tools ask for on their own. -/
  probePaths : List String := ["/@vite/client"]
  /-- The files that stand for their directory, the first that is there wins. -/
  indexFiles : List String := ["index.html", "index.htm"]
  /-- Whether a directory without such a file is listed. -/
  directoryListing : Bool := true
  deriving DecidableEq, Repr

/-- The limits of one exchange. -/
structure Performance where
  /-- How many seconds an exchange may take. -/
  requestTimeout : UInt64 := 30
  deriving DecidableEq, Repr

end Settings

/-- All the settings. -/
structure Settings where
  server : Settings.Server := {}
  logging : Settings.Logging := {}
  preview : Settings.Preview := {}
  performance : Settings.Performance := {}
  deriving DecidableEq, Repr

namespace Settings

/-- The settings of a server for which nothing was set. -/
def standard : Settings := {}

/-- Host and port as one text. -/
def addressText (s : Settings) : String :=
  s.server.host ++ ":" ++ String.ofList (Text.Decimal.digits s.server.port.toNat)

/-- The address to listen on. -/
def address (s : Settings) : Except StartupError SocketAddr :=
  match SocketAddr.read? s.addressText.toList with
  | some a => .ok a
  | none => .error (.invalidAddress s.addressText)

/-- Whether a target is one that tools ask for on their own: it holds one of the
probe paths that are not empty. -/
def isProbe (s : Settings) (target : List Char) : Bool :=
  s.preview.probePaths.any fun probe =>
    !probe.isEmpty && Pieces.hasInfix probe.toList target

theorem isProbe_iff (s : Settings) (target : List Char) :
    s.isProbe target = true ↔
      ∃ probe ∈ s.preview.probePaths, probe ≠ "" ∧ probe.toList <:+: target := by
  simp [isProbe, List.any_eq_true, Pieces.hasInfix_iff]

end Settings

end StaticPreview
