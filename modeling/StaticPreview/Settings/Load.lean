/-
# StaticPreview.Settings.Load -- settings put together from their sources

Settings come from four sources, each of which wins over those before it: what holds
when nothing is said, the settings file, the environment, and what is asked for at
the start of the program.  Their values are merged first (`merge`), and only the
result is looked at (`load`): a setting of the wrong type does not matter when a
later source sets it too.
-/
import StaticPreview.Settings.Decode
import StaticPreview.Settings.Environment
import StaticPreview.Settings.File

namespace StaticPreview.Settings

/-- What is asked for at the start of the program. -/
structure Overrides where
  host : Option String := none
  port : Option UInt16 := none
  root : Option String := none
  deriving DecidableEq, Repr

/-- A list of texts as a value. -/
def Value.ofTexts (texts : List String) : Value := .sequence none (texts.map .ofText)

/-- What holds when nothing is said.  The names of the log files are missing, since
they have none. -/
def defaults : Fields Value :=
  let s := standard
  [("server.host", .ofText s.server.host),
    ("server.port", .ofScalar (.integer s.server.port.toNat)),
    ("server.root", .ofText s.server.root),
    ("logging.access_log", .ofScalar (.boolean s.logging.accessLog)),
    ("logging.access_log_format", .ofText s.logging.accessLogFormat),
    ("performance.request_timeout", .ofScalar (.integer s.performance.requestTimeout.toNat)),
    ("preview.probe_paths", .ofTexts s.preview.probePaths),
    ("preview.index_files", .ofTexts s.preview.indexFiles),
    ("preview.directory_listing", .ofScalar (.boolean s.preview.directoryListing))]

/-- What is asked for, as values. -/
def Overrides.fields (o : Overrides) : Fields Value :=
  (o.host.map fun s => ("server.host", Value.ofText s)).toList ++
    (o.port.map fun n => ("server.port", Value.ofScalar (.integer n.toNat))).toList ++
    (o.root.map fun s => ("server.root", Value.ofText s)).toList

/-- Settings with more values put under their keys. -/
def Value.setAll (root : Value) (fields : Fields Value) : Value :=
  fields.foldl (fun root (key, value) => root.set (Key.read key) value) root

/-- The values of all sources, later ones over earlier ones. -/
def merge (sources : List (Fields Value)) : Value := sources.foldl Value.setAll Value.empty

/-- The settings of a program that is started in a file system with the name of a
settings file, the variables of its environment, and what is asked for. -/
def load (fs : FileSystem) (file : String) (environment : List (String × String))
    (overrides : Overrides) : Except Fault Settings := do
  let fields ← File.load fs file
  decode (merge [defaults, fields, Environment.collect environment, overrides.fields])

end StaticPreview.Settings
