/-
# StaticPreview.Lifecycle -- what the access log says of the server itself

When the server comes up it writes a banner that says where it listens and what
it serves; later it writes what it was asked to stop by, and that it stopped.
Each is a list of log entries, in order.
-/
import StaticPreview.Journal
import StaticPreview.Settings
import StaticPreview.Text.Utf8

namespace StaticPreview.Lifecycle

/-- The line above and below the banner. -/
def rule : String := "======================================"

/-- The banner of a server that listens on an address and serves a directory. -/
def started (addr : SocketAddr) (root : Bytes) (settings : Settings) : List String :=
  let port := String.ofList (Text.Decimal.digits addr.port.toNat)
  [rule, "Preview server started", "Listening on: http://" ++ String.ofList addr.text] ++
  (if addr.ip.isUnspecified then ["Local:        http://localhost:" ++ port] else []) ++
  ["Serving:      " ++ Bytes.toStringLossy root,
    "Caching disabled; file changes show up on reload"] ++
  (if settings.preview.probePaths = [] then []
    else ["Ignoring probe paths: " ++ String.intercalate ", " settings.preview.probePaths]) ++
  (settings.logging.accessLogFile.toList.map ("Access log: " ++ ·)) ++
  (settings.logging.errorLogFile.toList.map ("Error log: " ++ ·)) ++
  ["Press Ctrl+C to stop", rule ++ "\n"]

/-- A request to stop, by the name of the signal that made it. -/
def stopRequested (signal : String) : String :=
  "\n[SIGNAL] " ++ signal ++ " received, shutting down..."

/-- The last entry. -/
def stopped : String := "Server stopped"

end StaticPreview.Lifecycle
