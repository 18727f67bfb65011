/-
# StaticPreview.FileSystem.Change -- making, writing, moving and removing entries

Each change takes paths, walks to where they lead, and either fails with the
failure that the operating system would report or gives the changed file system.
A new entry stands where its path lands with only the last name missing; a path
that lands at a link which leads nowhere makes the entry that the link stands for
when the change follows links, and fails when it does not.
-/
import StaticPreview.FileSystem.Walk

namespace StaticPreview.FileSystem

/-- The steps of a path without what it says after its last name. -/
def nameSteps (p : Bytes) : List Step :=
  (Pieces.split Bytes.slash p).filterMap Step.ofText?

/-- Where the entry that a path names is or would be; the last link is not followed
and a solidus at the end means nothing. -/
def landName (fs : FileSystem) (p : Bytes) : Except IoError Landing := do
  checkPath p
  walk fs false maxLinks (start p fs.workingDirectory) (nameSteps p)

/-- With a new directory at a path. -/
def makeDirectory (fs : FileSystem) (p : Bytes) : Except IoError FileSystem := do
  match ← fs.landName p with
  | .found _ => .error .exists_
  | .absent l name => .ok (fs.insert (l ++ [name]) { node := .directory })

/-- With a directory at a path, made unless there is one. -/
def ensureDirectory (fs : FileSystem) (p : Bytes) : Except IoError FileSystem :=
  match fs.makeDirectory p with
  | .ok fs => .ok fs
  | .error e => if fs.leadsToDirectory p then .ok fs else .error e

/-- The spellings of the paths above a path, the nearest first, up to where it
starts. -/
def ancestors (p : Bytes) : List Bytes :=
  let cs := Path.components p
  (List.range (cs.length - 1)).reverse.map fun n => Path.ofComponents (cs.take (n + 1))

/-- Directories made at a path and, as far as they are missing, at the paths above it,
which are given nearest first.  What has been made stays even when a later one
fails. -/
def makeFrom (fs : FileSystem) : List Bytes → FileSystem × Except IoError Unit
  | [] => (fs, .ok ())
  | p :: above =>
      match fs.makeDirectory p with
      | .ok fs => (fs, .ok ())
      | .error e =>
          if e = .noEntry ∧ above ≠ [] then
            match makeFrom fs above with
            | (fs, .error e) => (fs, .error e)
            | (fs, .ok ()) =>
                match fs.ensureDirectory p with
                | .ok fs => (fs, .ok ())
                | .error e => (fs, .error e)
          else if fs.leadsToDirectory p then (fs, .ok ())
          else (fs, .error e)

/-- Directories made at a path and at all the paths above it. -/
def makeDirectories (fs : FileSystem) (p : Bytes) : FileSystem × Except IoError Unit :=
  if Path.components p = [] then (fs, .ok ()) else fs.makeFrom (p :: ancestors p)

/-- The file system with a file at a path, made empty unless there is one, and the
location of what can now be written to. -/
def openForWriting (fs : FileSystem) (p : Bytes) (now : Time.Instant) :
    Except IoError (FileSystem × Location) := do
  if p.getLast? = some Bytes.slash then
    -- whatever the path leads to, it asks for a directory
    let _ ← fs.landName p
    .error .isDirectory
  else
    match ← fs.land true p with
    | .absent l name =>
        .ok (fs.insert (l ++ [name]) { node := .file [], modified := now }, l ++ [name])
    | .found l =>
        let e ← fs.entryAt l
        if e.node.isDirectory then .error .isDirectory
        else if e.locked then .error .noPermission
        else if e.node = .socket then .error .noDevice
        else .ok (fs, l)

/-- With the content of a file changed; what is no file swallows what is written. -/
def change (fs : FileSystem) (l : Location) (now : Time.Instant) (f : Bytes → Bytes) :
    FileSystem :=
  match fs.find? l with
  | some { node := .file content, locked, .. } =>
      fs.insert l { node := .file (f content), modified := now, locked }
  | _ => fs

/-- With more behind what a file holds. -/
def append (fs : FileSystem) (l : Location) (now : Time.Instant) (data : Bytes) : FileSystem :=
  fs.change l now (· ++ data)

/-- With a file of the given content at a path. -/
def write (fs : FileSystem) (p : Bytes) (now : Time.Instant) (data : Bytes) :
    Except IoError FileSystem := do
  let (fs, l) ← fs.openForWriting p now
  .ok (fs.change l now fun _ => data)

/-- With a new entry that is no directory at a path. -/
def makeEntry (fs : FileSystem) (p : Bytes) (e : Entry) : Except IoError FileSystem := do
  match ← fs.landName p with
  | .found _ => .error .exists_
  | .absent l name =>
      if p.getLast? = some Bytes.slash then .error .noEntry else .ok (fs.insert (l ++ [name]) e)

/-- With a new link at a path. -/
def makeLink (fs : FileSystem) (p target : Bytes) : Except IoError FileSystem := do
  checkPath target
  fs.makeEntry p { node := .link target }

/-- Without the entry that a path names and all that is below it. -/
def remove (fs : FileSystem) (p : Bytes) : Except IoError FileSystem := do
  let l ← (← fs.land false p).location
  if l = [] then .error .busy else .ok (fs.erase l)

/-- Whether the last step of a path is a name. -/
def endsInName (p : Bytes) : Bool :=
  match (nameSteps p).getLast? with
  | some (.name _) => true
  | _ => false

/-- Where a landing is or would be. -/
def Landing.place : Landing → Location
  | .found l => l
  | .absent l name => l ++ [name]

/-- With what the first path names moved to where the second says.  A directory takes
only the place of an empty directory, anything else that of no directory, and
nothing moves below itself. -/
def rename (fs : FileSystem) (old new : Bytes) : Except IoError FileSystem := do
  let source ← fs.landName old
  let target ← fs.landName new
  if !endsInName old || !endsInName new then .error .busy
  let moved ← fs.entryAt (← source.location)
  let isDirectory := moved.node.isDirectory
  let folder (p : Bytes) : Bool := p.getLast? = some Bytes.slash
  if source.place = target.place then .ok fs
  else if source.place.isPrefixOf target.place then .error .invalid
  else if !isDirectory && (folder old || folder new) then .error .notDirectory
  else
    match fs.find? target.place with
    | none => .ok (fs.move source.place target.place)
    | some replaced =>
        match isDirectory, replaced.node.isDirectory with
        | true, false => .error .notDirectory
        | false, true => .error .isDirectory
        | true, true =>
            if fs.children target.place = [] then .ok (fs.move source.place target.place)
            else .error .notEmpty
        | false, false => .ok (fs.move source.place target.place)

/-! ## What a change leaves alone -/

theorem find?_of_landName_absent {fs : FileSystem} {p : Bytes} {d : Location} {name : Bytes}
    (h : fs.landName p = .ok (.absent d name)) : fs.find? (d ++ [name]) = none := by
  unfold landName at h
  cases hp : checkPath p with
  | error e => simp [hp, bind, Except.bind] at h
  | ok u =>
      simp only [hp, bind, Except.bind] at h
      exact find?_of_walk_absent h

end StaticPreview.FileSystem
