/-
# StaticPreview.LogFiles -- where the two logs go

A log goes to a file when the settings name one, and to a standard stream when
they do not.  Log files are opened once, before anything is served, the access log
first; the directories above a log file are made as needed, and what a file holds
already stays in front of what is written.

* `openAll`: the targets of both logs, or why they cannot be opened, and in either
  case the file system as it is afterwards;
* `writeLine`: a line written to a target.
-/
import StaticPreview.FileSystem.Change
import StaticPreview.Settings
import StaticPreview.Text.Utf8

namespace StaticPreview

/-- Where the logs go; none is a standard stream. -/
structure LogFiles where
  access : Option Location := none
  errors : Option Location := none
  deriving DecidableEq, Repr

namespace LogFiles

/-- What is wrong when the logs are open already. -/
def alreadyOpen : IoError := .text "Log writer already initialized"

/-- A log file opened, with the directories above it. -/
def openFile (fs : FileSystem) (path : String) (now : Time.Instant) :
    FileSystem × Except IoError Location :=
  let p := Bytes.ofString path
  let (fs, made) := fs.makeDirectories ((Path.parent? p).getD [])
  match made with
  | .error e => (fs, .error e)
  | .ok () =>
      match fs.openForWriting p now with
      | .error e => (fs, .error e)
      | .ok (fs, l) => (fs, .ok l)

/-- A log file opened, if one is named. -/
def openNamed (fs : FileSystem) (path : Option String) (now : Time.Instant) :
    FileSystem × Except IoError (Option Location) :=
  match path with
  | none => (fs, .ok none)
  | some path =>
      match openFile fs path now with
      | (fs, .ok l) => (fs, .ok (some l))
      | (fs, .error e) => (fs, .error e)

/-- Both logs opened, the access log first.  Logs that are `current` already are not
replaced, but that is noticed only when the new ones have been opened. -/
def openAll (fs : FileSystem) (current : Option LogFiles) (settings : Settings.Logging)
    (now : Time.Instant) : FileSystem × Except IoError LogFiles :=
  match openNamed fs settings.accessLogFile now with
  | (fs, .error e) => (fs, .error e)
  | (fs, .ok access) =>
      match openNamed fs settings.errorLogFile now with
      | (fs, .error e) => (fs, .error e)
      | (fs, .ok errors) =>
          if current.isSome then (fs, .error alreadyOpen) else (fs, .ok { access, errors })

/-- What a line written to a file or a stream leaves: the file system, and what the
stream got. -/
def writeLine (fs : FileSystem) (target : Option Location) (now : Time.Instant) (line : String) :
    FileSystem × String :=
  match target with
  | some l => (fs.append l now (Bytes.ofString (line ++ "\n")), "")
  | none => (fs, line ++ "\n")

end LogFiles

end StaticPreview
