/-
# StaticPreview.Server -- a server from its start to its end

A server comes up when its directory can be served, its settings name an address, and
the operating system lets it listen there, looked at in this order.  Until then
nothing is written to the access log; from then on the log starts with the banner
(`Server.journal`).
-/
import StaticPreview.Serving
import StaticPreview.StartupError

namespace StaticPreview

/-- A server that has come up. -/
structure Server where
  site : Site
  /-- Where it listens. -/
  address : SocketAddr
  deriving DecidableEq, Repr

namespace Server

/-- A server that comes up, if it does.  `listen` is the operating system's answer: the
address that is listened on, with a port of its choice when none was asked for. -/
def start (fs : FileSystem) (settings : Settings)
    (listen : SocketAddr → Except IoError SocketAddr) : Except StartupError Server := do
  let site ← Site.open fs settings
  let asked ← settings.address
  match listen asked with
  | .ok address => .ok { site, address }
  | .error cause => .error (.ofBind asked cause)

/-- What is written down when a server has come up. -/
def banner (s : Server) : Journal :=
  Journal.ofAccess (Lifecycle.started s.address s.site.rootPath s.site.settings)

/-- What is written down while events happen to a server. -/
def journal {α : Type} (s : Server) (events : List (Event α)) : Journal :=
  s.banner ++ (Serving.run {} events).2

/-- What is written down of a client that took too long. -/
def timedOut (s : Server) (peer : SocketAddr) : Notice :=
  .warning ("Connection from " ++ String.ofList peer.text ++ " timed out after " ++
    numberText s.site.settings.performance.requestTimeout.toNat ++ " seconds")

end Server

end StaticPreview
