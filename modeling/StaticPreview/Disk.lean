/-
# StaticPreview.Disk -- the machine's file system, as far as it is looked at

What the server decides, it decides on a `FileSystem`.  Here one is made of those
entries of the machine's file system that a decision can depend on: all that a path
passes on its way (`visit`), and for a directory also what is right below it
(`visitDirectory`).  A link is entered with the path that it leads to in the end.

Paths that are no UTF-8 are not looked at.
-/
import StaticPreview.FileSystem.Walk
import StaticPreview.Text.Utf8

namespace StaticPreview.Disk

/-- A point in time of the machine's file system. -/
def instantOf : IO.FS.SystemTime → Time.Instant
  | ⟨seconds, nanos⟩ =>
      if h : nanos.toNat < 1000000000 then ⟨seconds, nanos.toNat, h⟩ else .ofSeconds seconds

/-- The location of an absolute path that is spelt without anything superfluous. -/
def locationOf (p : String) : Location :=
  ((p.splitOn "/").filter (· ≠ "")).map Bytes.ofString

/-- What stands at a path, which is no link. -/
def nodeAt (p : String) (type : IO.FS.FileType) (withContent : Bool) : IO (Node × Bool) := do
  match type with
  | .dir =>
      let readable ← try
          let _ ← ((← IO.currentDir) / p).readDir
          pure true
        catch _ => pure false
      pure (.directory, !readable)
  | .file =>
      if withContent then
        try
          let data ← IO.FS.readBinFile p
          pure (.file data.toList, false)
        catch _ => pure (.file [], true)
      else pure (.file [], false)
  | _ => pure (if p = "/dev/null" then .null else .socket, false)

/-- A file system with all that a path passes, and the content of the file that the path
leads to when it is asked for. -/
partial def visit (withContent : Bool) (fs : FileSystem) (p : String) : IO FileSystem := do
  let cwd ← IO.currentDir
  let mut fs := fs
  let mut reached := if p.startsWith "/" then cwd / "/" else cwd
  let names := (p.splitOn "/").filter fun name => name ≠ "" && name ≠ "."
  for (name, i) in names.zipIdx do
    let next := reached / name
    if name = ".." then
      reached := next
      continue
    let found ← try some <$> next.symlinkMetadata catch _ => pure none
    match found with
    | none => return fs
    | some data =>
        let parent ← IO.FS.realPath reached
        let location := locationOf parent.toString ++ [Bytes.ofString name]
        let modified := instantOf data.modified
        match data.type with
        | .symlink =>
            let target ← try some <$> IO.FS.realPath next catch _ => pure none
            match target with
            | none => return fs.insert location { node := .link [], modified }
            | some target =>
                let node := Node.link (Bytes.ofString target.toString)
                fs ← visit (withContent && i + 1 == names.length)
                  (fs.insert location { node, modified }) target.toString
        | type =>
            let (node, locked) ←
              nodeAt next.toString type (withContent && i + 1 == names.length)
            fs := fs.insert location { node, modified, locked }
        reached := next
  pure fs

/-- A file system of which only the working directory has been looked at. -/
def start : IO FileSystem := do
  let cwd := (← IO.currentDir).toString
  visit false { workingDirectory := locationOf cwd, distinct := by simp } cwd

/-- A file system with all that a path passes, given as bytes. -/
def visitBytes (withContent : Bool) (fs : FileSystem) (p : Bytes) : IO FileSystem :=
  match p.toString? with
  | some p => visit withContent fs p
  | none => pure fs

/-- A file system with what is right below the directory that a path leads to. -/
def visitDirectory (fs : FileSystem) (p : Bytes) : IO FileSystem := do
  match p.toString? with
  | none => pure fs
  | some p =>
      let entries ← try ((← IO.currentDir) / p).readDir catch _ => pure #[]
      entries.foldlM (fun fs entry => visit false fs (p ++ "/" ++ entry.fileName)) fs

end StaticPreview.Disk
