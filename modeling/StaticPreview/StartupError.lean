/-
# StaticPreview.StartupError -- why the server does not come up

The failures that end the program before or instead of serving, with the text
that is reported for each.  Failures of a single request are not among them.
-/
import StaticPreview.Address.Parser
import StaticPreview.IoError
import StaticPreview.Settings.Fault

namespace StaticPreview

/-- Why the server does not come up. -/
inductive StartupError where
  /-- Another program listens on the port. -/
  | addrInUse (port : UInt16)
  /-- The address cannot be listened on for another reason. -/
  | bind (addr : SocketAddr) (cause : IoError)
  /-- Host and port together are not an address. -/
  | invalidAddress (text : String)
  /-- The directory to serve cannot be used. -/
  | root (path : String) (cause : IoError)
  /-- The settings cannot be used. -/
  | settings (fault : Settings.Fault)
  /-- A log file cannot be opened. -/
  | log (cause : IoError)
  /-- Anything else that the operating system refuses. -/
  | io (cause : IoError)
  deriving DecidableEq, Repr

namespace StartupError

/-- What is wrong with a text that is no address. -/
def addressSyntax : String := "invalid socket address syntax"

/-- A failure to listen, the taken port told apart. -/
def ofBind (addr : SocketAddr) (cause : IoError) : StartupError :=
  if cause.isAddrInUse then .addrInUse addr.port else .bind addr cause

/-- The text that is reported. -/
def message : StartupError → String
  | .addrInUse port =>
      "port " ++ String.ofList (Text.Decimal.digits port.toNat) ++
        " is already in use; stop the other service or pick another port"
  | .bind addr cause => "failed to bind " ++ String.ofList addr.text ++ ": " ++ cause.message
  | .invalidAddress text => "invalid listen address '" ++ text ++ "': " ++ addressSyntax
  | .root path cause => "serving root '" ++ path ++ "' is not usable: " ++ cause.message
  | .settings fault => "configuration error: " ++ fault.message
  | .log cause => "failed to open log file: " ++ cause.message
  | .io cause => cause.message

/-- The text of the failure behind this one, if there is one. -/
def cause? : StartupError → Option String
  | .addrInUse _ => none
  | .bind _ cause => some cause.message
  | .invalidAddress _ => some addressSyntax
  | .root _ cause => some cause.message
  | .settings fault => some fault.message
  | .log cause => some cause.message
  | .io _ => none

end StartupError

end StaticPreview
