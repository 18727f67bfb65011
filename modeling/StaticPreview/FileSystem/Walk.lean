/-
# StaticPreview.FileSystem.Walk -- from the text of a path to a location

A path is walked one step at a time from a directory: `walk` follows links (at
most `maxLinks` of them, counted over the whole walk), takes `..` from where it
really stands, and refuses to go through anything that is not a directory or that
is locked.  It lands at an entry, or at a place where only the last name is
missing, so that the callers that make new entries know where.

* `find` is the location of what a path leads to, and `canonical` the same for a
  path of any length;
* `stat`, `read` and `list` are what can be asked of it;
* `find?_of_walk_absent`: where a walk misses only the last name, nothing stands.
-/
import StaticPreview.FileSystem
import StaticPreview.IoError

namespace StaticPreview

/-- What can be read of an entry. -/
def Entry.content (e : Entry) : Except IoError Bytes :=
  if e.locked then .error .noPermission
  else
    match e.node with
    | .file content => .ok content
    | .null => .ok []
    | .directory => .error .isDirectory
    | .socket => .error .noDevice
    | .link _ => .error .tooManyLinks

namespace FileSystem

/-- The longest name of an entry. -/
def maxName : Nat := 255

/-- The longest path. -/
def maxPath : Nat := 4095

/-- The most links that one walk follows. -/
def maxLinks : Nat := 40

/-- One step of a walk. -/
inductive Step where
  /-- Stay in this directory. -/
  | here
  /-- Go to the directory above. -/
  | up
  /-- Go to an entry of this directory. -/
  | name (entry : Bytes)
  /-- Make sure that what was reached is a directory. -/
  | folder
  deriving DecidableEq, Repr

/-- A step read from the text between two solidi. -/
def Step.ofText? (text : Bytes) : Option Step :=
  if text = [] then none
  else if text = Path.dotName then some .here
  else if text = Path.upName then some .up
  else some (.name text)

/-- The steps of a path; a solidus at the end asks for a directory. -/
def steps (p : Bytes) : List Step :=
  (Pieces.split Bytes.slash p).filterMap Step.ofText? ++
    if p.getLast? = some Bytes.slash then [.folder] else []

/-- Where a path starts. -/
def start (p : Bytes) (directory : Location) : Location :=
  if Path.isAbsolute p then [] else directory

/-- Where a walk ends. -/
inductive Landing where
  /-- At an entry. -/
  | found (location : Location)
  /-- In a directory without an entry of the last name. -/
  | absent (directory : Location) (name : Bytes)
  deriving DecidableEq, Repr

/-- A walk that hands over to `onLink` at the first link it has to follow, with the
directory from which, and the steps by which, to go on.  The last link is followed
only when `follow` says so. -/
def walkWith (fs : FileSystem) (follow : Bool)
    (onLink : Location → List Step → Except IoError Landing) :
    Location → List Step → Except IoError Landing
  | l, [] => .ok (.found l)
  | l, step :: rest =>
      match fs.find? l with
      | some { node := .directory, locked, .. } =>
          match step with
          | .folder => walkWith fs follow onLink l rest
          | .here => if locked then .error .noPermission else walkWith fs follow onLink l rest
          | .up =>
              if locked then .error .noPermission
              else walkWith fs follow onLink l.dropLast rest
          | .name entry =>
              if locked then .error .noPermission
              else if maxName < entry.length then .error .nameTooLong
              else
                match fs.find? (l ++ [entry]) with
                | none => if rest = [] then .ok (.absent l entry) else .error .noEntry
                | some { node := .link target, .. } =>
                    if follow ∨ rest ≠ [] then onLink (start target l) (steps target ++ rest)
                    else .ok (.found (l ++ [entry]))
                | some _ => walkWith fs follow onLink (l ++ [entry]) rest
      | _ => .error .notDirectory

/-- A walk that follows at most so many links. -/
def walk (fs : FileSystem) (follow : Bool) : Nat → Location → List Step → Except IoError Landing
  | 0 => walkWith fs follow fun _ _ => .error .tooManyLinks
  | links + 1 => walkWith fs follow (walk fs follow links)

/-- Refuse the texts that are no paths at all. -/
def checkPath (p : Bytes) : Except IoError Unit :=
  if 0 ∈ p then .error .zeroInPath
  else if p = [] then .error .noEntry
  else if maxPath < p.length then .error .nameTooLong
  else .ok ()

/-- Where a path leads; the last link is followed only when `follow` says so. -/
def land (fs : FileSystem) (follow : Bool) (p : Bytes) : Except IoError Landing := do
  checkPath p
  walk fs follow maxLinks (start p fs.workingDirectory) (steps p)

/-- The location at which a walk ended, if there is an entry. -/
def Landing.location : Landing → Except IoError Location
  | .found l => .ok l
  | .absent _ _ => .error .noEntry

/-- The location of what a path leads to. -/
def find (fs : FileSystem) (p : Bytes) : Except IoError Location := do
  (← fs.land true p).location

/-- The location of what a path of any length leads to. -/
def canonical (fs : FileSystem) (p : Bytes) : Except IoError Location :=
  if 0 ∈ p then .error .zeroInPath
  else if p = [] then .error .noEntry
  else do (← walk fs true maxLinks (start p fs.workingDirectory) (steps p)).location

/-! ## What can be asked of a path -/

/-- The entry at a location. -/
def entryAt (fs : FileSystem) (l : Location) : Except IoError Entry :=
  match fs.find? l with
  | some e => .ok e
  | none => .error .noEntry

/-- The entry that a path leads to. -/
def stat (fs : FileSystem) (p : Bytes) : Except IoError Entry := do fs.entryAt (← fs.find p)

/-- Whether a path leads to a directory. -/
def leadsToDirectory (fs : FileSystem) (p : Bytes) : Bool :=
  match fs.stat p with
  | .ok e => e.node.isDirectory
  | .error _ => false

/-- The content of the file that a path leads to. -/
def read (fs : FileSystem) (p : Bytes) : Except IoError Bytes := do
  (← fs.stat p).content

/-- The names and entries of the directory that a path leads to. -/
def list (fs : FileSystem) (p : Bytes) : Except IoError (List (Bytes × Entry)) := do
  let l ← fs.find p
  let e ← fs.entryAt l
  if !e.node.isDirectory then .error .notDirectory
  else if e.locked then .error .noPermission
  else .ok (fs.children l)

/-! ## Where a walk ends -/

theorem find?_of_walkWith_absent {fs : FileSystem} {follow : Bool}
    {onLink : Location → List Step → Except IoError Landing}
    (hlink : ∀ a ss d name, onLink a ss = .ok (.absent d name) → fs.find? (d ++ [name]) = none)
    {a : Location} {ss : List Step} {d : Location} {name : Bytes}
    (h : walkWith fs follow onLink a ss = .ok (.absent d name)) :
    fs.find? (d ++ [name]) = none := by
  fun_induction walkWith fs follow onLink a ss with
  | case1 => simp at h
  | case2 _ _ _ _ _ ih => exact ih h
  | case3 => simp at h
  | case4 _ _ _ _ _ _ ih => exact ih h
  | case5 => simp at h
  | case6 _ _ _ _ _ _ ih => exact ih h
  | case7 => simp at h
  | case8 => simp at h
  | case9 _ _ _ _ _ _ _ hn =>
      simp only [Except.ok.injEq, Landing.absent.injEq] at h
      obtain ⟨rfl, rfl⟩ := h
      exact hn
  | case10 => simp at h
  | case11 => exact hlink _ _ _ _ h
  | case12 => simp at h
  | case13 => rename_i ih; exact ih h
  | case14 => simp at h

/-- **A walk that misses its last name misses an entry that is not there.** -/
theorem find?_of_walk_absent {fs : FileSystem} {follow : Bool} {links : Nat} {a : Location}
    {ss : List Step} {d : Location} {name : Bytes}
    (h : walk fs follow links a ss = .ok (.absent d name)) : fs.find? (d ++ [name]) = none := by
  induction links generalizing a ss d name with
  | zero => exact find?_of_walkWith_absent (by simp) h
  | succ links ih => exact find?_of_walkWith_absent (fun _ _ _ _ => ih) h

end FileSystem

end StaticPreview
