/-
# StaticPreview.Proofs.Settings.File -- what becomes of a settings file

The settings file of a name is looked for under that very name first (`File.place`), where
its extension alone says what it is written in (`find?_of_isFile`).  A file has the text whose
UTF-8 its content is, and no other one (`text?_eq_some_iff`).  With that text it gives the fields
of the text (`load_of_find?`) or is a fault (`load_of_malformed`); without a text it counts as
missing (`load_of_text?_eq_none`), and so there is no other fault (`of_load_eq_error`).
-/
import StaticPreview.Proofs.Text.Utf8.Exact
import StaticPreview.Settings.File

namespace StaticPreview.Settings.File

open StaticPreview.Text

/-- What the file of a path is written in, by its extension. -/
def format? (p : Bytes) : Option Format :=
  formats.lookup (((Path.extension? p).map Bytes.toStringLossy).getD "")

/-- The text of a file is the one that its content spells. -/
theorem text?_eq_some_iff {fs : FileSystem} {p : Bytes} {s : List Char} :
    text? fs p = some s ↔ fs.read p = .ok (Utf8.encode s) := by
  rw [text?]
  cases fs.read p with
  | error cause =>
      constructor
      · intro none_
        cases none_
      · intro refused
        cases refused
  | ok content =>
      dsimp only
      rw [Utf8.decode?_eq_some_iff, Except.ok.injEq]
      exact eq_comm

theorem find?_of_isFile {fs : FileSystem} {p : Bytes} (there : isFile fs p = true) :
    find? fs p = (format? p).map fun format => (p, format) := by
  rw [find?, if_pos there]
  rfl

/-- Where the settings file of a name is looked for first. -/
def place (fs : FileSystem) (name : String) : Bytes :=
  Path.push fs.workingDirectory.path (Bytes.ofString name)

variable {fs : FileSystem} {name : String}

/-- **A settings file that was found is what its text makes of it.** -/
theorem load_of_text {p : Bytes} {format : Format} {s : List Char}
    (there : find? fs (place fs name) = some (p, format))
    (read : fs.read p = .ok (Utf8.encode s)) :
    load fs name =
      match format.fields? s with
      | some fields => .ok (Value.fieldsWithOrigin (shown fs p) fields)
      | none => .error (.malformedFile (shown fs p)) := by
  have spelt := text?_eq_some_iff.2 read
  unfold load
  rw [← place, there]
  cases written : format.fields? s with
  | none => simp only [spelt, written]
  | some fields => simp only [spelt, written]

/-- The fields of a settings file come with where they come from. -/
theorem load_of_find? {p : Bytes} {format : Format} {s : List Char} {fields : Fields Value}
    (there : find? fs (place fs name) = some (p, format))
    (read : fs.read p = .ok (Utf8.encode s)) (written : format.fields? s = some fields) :
    load fs name = .ok (Value.fieldsWithOrigin (shown fs p) fields) := by
  rw [load_of_text there read, written]

theorem load_of_malformed {p : Bytes} {format : Format} {s : List Char}
    (there : find? fs (place fs name) = some (p, format))
    (read : fs.read p = .ok (Utf8.encode s)) (malformed : format.fields? s = none) :
    load fs name = .error (.malformedFile (shown fs p)) := by
  rw [load_of_text there read, malformed]

/-- A settings file that has no text counts as missing. -/
theorem load_of_text?_eq_none {p : Bytes} {format : Format}
    (there : find? fs (place fs name) = some (p, format)) (none_ : text? fs p = none) :
    load fs name = .ok [] := by
  unfold load
  rw [← place, there]
  dsimp only
  rw [none_]

/-- A settings file is a fault only by what its text is. -/
theorem of_load_eq_error {fault : Fault} (there : isFile fs (place fs name) = true)
    (loaded : load fs name = .error fault) :
    ∃ format s, format? (place fs name) = some format ∧
      fs.read (place fs name) = .ok (Utf8.encode s) ∧ format.fields? s = none := by
  have found := find?_of_isFile there
  cases known : format? (place fs name) with
  | none =>
      unfold load at loaded
      rw [← place, found, known] at loaded
      cases loaded
  | some format =>
      rw [known, Option.map_some] at found
      cases spelt : text? fs (place fs name) with
      | none =>
          rw [load_of_text?_eq_none found spelt] at loaded
          cases loaded
      | some s =>
          have read := text?_eq_some_iff.1 spelt
          cases written : format.fields? s with
          | none => exact ⟨format, s, rfl, read, written⟩
          | some fields =>
              rw [load_of_find? found read written] at loaded
              cases loaded

end StaticPreview.Settings.File
