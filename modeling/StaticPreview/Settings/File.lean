/-
# StaticPreview.Settings.File -- the settings file

The file is looked for under its name as it is given, and then under that name with
the extension of one of the formats behind it.  A file under the very name must have
the extension of a format itself; otherwise there is no settings file, which is no
fault, and neither is one that cannot be read or is no UTF-8 (`text?`).  A file that is read
must be what its extension says, and its root must be a table (`load`).  A byte order mark is
part of the text; whether one may stand there is for the format to say.

Where the name leads to a file with more than one extension, the first of `formats` decides.
That order is a choice made here: what reads settings files goes through its formats as they
come out of a hash map, and promises no order.

Values that come from a file name it by its path from the working directory.
-/
import StaticPreview.FileSystem.Walk
import StaticPreview.Settings.Fault
import StaticPreview.Settings.File.Ini
import StaticPreview.Settings.File.Json
import StaticPreview.Settings.File.Json5
import StaticPreview.Settings.File.Ron
import StaticPreview.Settings.File.Toml
import StaticPreview.Settings.File.Yaml
import StaticPreview.Text.Utf8

namespace StaticPreview.Settings

/-- What a settings file is written in. -/
inductive File.Format where
  | toml
  | json
  | yaml
  | ini
  | ron
  | json5
  deriving DecidableEq, Repr

namespace File

/-- The extensions of files, with what these are written in. -/
def formats : List (String × Format) :=
  [("toml", .toml), ("json", .json), ("yaml", .yaml), ("yml", .yaml), ("ini", .ini), ("ron", .ron),
    ("json5", .json5)]

/-- What a text stands for in a format. -/
def Format.read : Format → List Char → Option Value
  | .toml => Toml.read
  | .json => Json.read
  | .yaml => Yaml.read
  | .ini => Ini.read
  | .ron => Ron.read
  | .json5 => Json5.read

/-- The fields of a text whose root is a table. -/
def Format.fields? (format : Format) (s : List Char) : Option (Fields Value) :=
  match format.read s with
  | some (.table _ fields) => some fields
  | _ => none

/-! ## Where the file is -/

/-- Whether a path leads to a regular file. -/
def isFile (fs : FileSystem) (p : Bytes) : Bool :=
  match fs.stat p with
  | .ok e => e.node.isFile
  | .error _ => false

/-- A path with an extension behind its name; a path that ends in no name is none. -/
def withExtension? (p : Bytes) (extension : String) : Option Bytes :=
  (Path.fileName? p).map fun entry =>
    Path.withFileName p (entry ++ Bytes.dot :: Bytes.ofString extension)

/-- The settings file of a path, and what it is written in. -/
def find? (fs : FileSystem) (p : Bytes) : Option (Bytes × Format) :=
  if isFile fs p then
    let extension := ((Path.extension? p).map Bytes.toStringLossy).getD ""
    (formats.lookup extension).map fun format => (p, format)
  else
    formats.findSome? fun (extension, format) =>
      match withExtension? p extension with
      | some q => if isFile fs q then some (q, format) else none
      | none => none

/-- What leads from one list of components to another one: up to where both part, and
down from there. -/
def steps : List Path.Component → List Path.Component → List Path.Component
  | [], target => target
  | base, [] => base.map fun _ => .up
  | b :: base, t :: target =>
      if b = t then steps base target else .up :: base.map (fun _ => .up) ++ t :: target

/-- A path as seen from the working directory. -/
def shown (fs : FileSystem) (p : Bytes) : String :=
  Bytes.toStringLossy
    (Path.ofComponents
      (steps (Path.components fs.workingDirectory.path) (Path.components p)))

/-! ## What the file says -/

/-- The text of a file that can be read and is UTF-8. -/
def text? (fs : FileSystem) (p : Bytes) : Option (List Char) :=
  match fs.read p with
  | .ok content => StaticPreview.Text.Utf8.decode? content
  | .error _ => none

/-- The fields of the settings file of a name; there are none when there is no file, or none
that has a text. -/
def load (fs : FileSystem) (name : String) : Except Fault (Fields Value) :=
  match find? fs (Path.push fs.workingDirectory.path (Bytes.ofString name)) with
  | none => .ok []
  | some (p, format) =>
      match text? fs p with
      | none => .ok []
      | some s =>
          match format.fields? s with
          | some fields => .ok (Value.fieldsWithOrigin (shown fs p) fields)
          | none => .error (.malformedFile (shown fs p))

end File

end StaticPreview.Settings
