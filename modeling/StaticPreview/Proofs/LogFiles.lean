/-
# StaticPreview.Proofs.LogFiles -- opening the logs destroys nothing

Opening a log makes the directories above it and then the file, if it is missing, so either
step can fail.  In each case the file system has only grown: by directories above the log, and
by the log itself only if nothing failed (`openFile_cases`, `openNamed_cases`).  The second log
is opened in what the first left, so what is new is what is new of either, and the first log
is still where its path leads (`growsBy_openAll`, `leadsTo_of_openAll`).

A line that is written stands behind what its file held (`node_writeLine`), and so do all of
them in their order, whichever of the two logs each is for, also if both are one file
(`node_writeAll`).
-/
import StaticPreview.LogFiles
import StaticPreview.Proofs.FileSystem.Growth

namespace StaticPreview.LogFiles

open FileSystem (GrowsBy)

variable {fs fs' : FileSystem} {now : Time.Instant} {e : IoError}

/-- The paths above a path, the nearest first. -/
def pathsAbove (p : Bytes) : List Bytes :=
  let parent := (Path.parent? p).getD []
  parent :: FileSystem.ancestors parent

/-- The path of a log, if it has one. -/
def pathOf (path : Option String) : List Bytes := path.toList.map Bytes.ofString

/-- The paths above that of a log. -/
def above (path : Option String) : List Bytes := (pathOf path).flatMap pathsAbove

theorem pathOf_some (path : String) : pathOf (some path) = [Bytes.ofString path] := by
  simp only [pathOf, Option.toList_some, List.map_cons, List.map_nil]

theorem above_some (path : String) : above (some path) = pathsAbove (Bytes.ofString path) := by
  rw [above, pathOf_some, List.flatMap_singleton]

/-! ## One log -/

/-- **A log file is opened where its path leads, or not at all**, and then at most directories
above it are new. -/
theorem openFile_cases (fs : FileSystem) (path : String) (now : Time.Instant) :
    (∃ fs' l, openFile fs path now = (fs', .ok l) ∧ fs'.find (Bytes.ofString path) = .ok l ∧
      GrowsBy (pathsAbove (Bytes.ofString path)) [Bytes.ofString path] fs fs') ∨
    ∃ fs' e, openFile fs path now = (fs', .error e) ∧
      GrowsBy (pathsAbove (Bytes.ofString path)) [] fs fs' := by
  have made (files : List Bytes) :
      GrowsBy (pathsAbove (Bytes.ofString path)) files fs
        (fs.makeDirectories ((Path.parent? (Bytes.ofString path)).getD [])).1 :=
    FileSystem.growsBy_makeDirectories _ fs
  unfold openFile
  dsimp only
  generalize fs.makeDirectories ((Path.parent? (Bytes.ofString path)).getD []) = step at made ⊢
  obtain ⟨fs₁, outcome⟩ := step
  cases outcome with
  | error e => exact Or.inr ⟨fs₁, e, rfl, made []⟩
  | ok _ =>
      dsimp only
      cases opened : fs₁.openForWriting (Bytes.ofString path) now with
      | error e => exact Or.inr ⟨fs₁, e, rfl, made []⟩
      | ok y =>
          obtain ⟨fs₂, l⟩ := y
          obtain ⟨grows, here⟩ :=
            FileSystem.growsBy_openForWriting List.mem_cons_self opened
          exact Or.inl ⟨fs₂, l, rfl, here, (made _).trans grows⟩

/-- The target of a log is where its path leads; without a path it has none. -/
def LeadsTo (fs : FileSystem) (path : Option String) (target : Option Location) : Prop :=
  target.map Except.ok = path.map fun p => fs.find (Bytes.ofString p)

theorem openNamed_cases (fs : FileSystem) (path : Option String) (now : Time.Instant) :
    (∃ fs' target, openNamed fs path now = (fs', .ok target) ∧ LeadsTo fs' path target ∧
      GrowsBy (above path) (pathOf path) fs fs') ∨
    ∃ fs' e, openNamed fs path now = (fs', .error e) ∧ GrowsBy (above path) [] fs fs' := by
  cases path with
  | none => exact Or.inl ⟨fs, none, rfl, rfl, .refl fs⟩
  | some path =>
      rw [above_some, pathOf_some]
      unfold openNamed
      dsimp only
      rcases openFile_cases fs path now with ⟨fs', l, opened, here, grows⟩ | ⟨fs', e, failed, grows⟩
      · rw [opened]
        refine Or.inl ⟨fs', some l, rfl, ?_, grows⟩
        rw [LeadsTo, Option.map_some, Option.map_some, here]
      · rw [failed]
        exact Or.inr ⟨fs', e, rfl, grows⟩

theorem LeadsTo.of_growth {path : Option String} {target : Option Location}
    (leads : LeadsTo fs path target) (grown : FileSystem.Growth fs fs') :
    LeadsTo fs' path target := by
  cases path with
  | none =>
      rw [LeadsTo, Option.map_none] at leads ⊢
      exact leads
  | some p =>
      cases target with
      | none => cases leads
      | some l =>
          have here : Except.ok l = fs.find (Bytes.ofString p) := Option.some.inj leads
          rw [LeadsTo, Option.map_some, Option.map_some,
            FileSystem.find_of_growth grown here.symm]

/-! ## Both logs -/

/-- The paths above both logs. -/
def directories (settings : Settings.Logging) : List Bytes :=
  above settings.accessLogFile ++ above settings.errorLogFile

/-- The paths of both logs. -/
def files (settings : Settings.Logging) : List Bytes :=
  pathOf settings.accessLogFile ++ pathOf settings.errorLogFile

/-- If the access log cannot be opened, that is all: the error log is not tried. -/
theorem openAll_of_access_error {settings : Settings.Logging} (current : Option LogFiles)
    (failed : openNamed fs settings.accessLogFile now = (fs', .error e)) :
    openAll fs current settings now = (fs', .error e) := by
  rw [openAll, failed]

theorem growsBy_openAll (fs : FileSystem) (current : Option LogFiles)
    (settings : Settings.Logging) (now : Time.Instant) :
    GrowsBy (directories settings) (files settings) fs (openAll fs current settings now).1 := by
  have access : above settings.accessLogFile ⊆ directories settings :=
    List.subset_append_left _ _
  have errors : above settings.errorLogFile ⊆ directories settings :=
    List.subset_append_right _ _
  rcases openNamed_cases fs settings.accessLogFile now with
    ⟨fs₁, target, opened, -, grows⟩ | ⟨fs₁, e, failed, grows⟩
  · have first := grows.mono access (List.subset_append_left _ (pathOf settings.errorLogFile))
    rw [openAll, opened]
    dsimp only
    rcases openNamed_cases fs₁ settings.errorLogFile now with
      ⟨fs₂, target', opened', -, grows'⟩ | ⟨fs₂, e, failed, grows'⟩
    · have next := grows'.mono errors (List.subset_append_right (pathOf settings.accessLogFile) _)
      rw [opened']
      dsimp only
      split <;> exact first.trans next
    · rw [failed]
      exact first.trans (grows'.mono errors (List.nil_subset _))
  · rw [openAll_of_access_error current failed]
    exact grows.mono access (List.nil_subset _)

theorem leadsTo_of_openAll {current : Option LogFiles} {settings : Settings.Logging}
    {logs : LogFiles} (h : openAll fs current settings now = (fs', .ok logs)) :
    LeadsTo fs' settings.accessLogFile logs.access ∧
      LeadsTo fs' settings.errorLogFile logs.errors := by
  rcases openNamed_cases fs settings.accessLogFile now with
    ⟨fs₁, target, opened, leads, -⟩ | ⟨fs₁, e, failed, -⟩
  · rcases openNamed_cases fs₁ settings.errorLogFile now with
      ⟨fs₂, target', opened', leads', grows⟩ | ⟨fs₂, e, failed, -⟩
    · simp only [openAll, opened, opened'] at h
      split at h
      · cases h
      · obtain ⟨rfl, done⟩ := Prod.mk.inj h
        obtain rfl := Except.ok.inj done
        exact ⟨leads.of_growth grows.toGrowth, leads'⟩
    · simp only [openAll, opened, failed] at h
      cases h
  · simp only [openAll, failed] at h
    cases h

/-! ## Lines -/

/-- A line written to a file or a stream. -/
structure Write where
  target : Option Location
  now : Time.Instant
  line : String

/-- What lines that are written one after another leave of a file system. -/
def writeAll (fs : FileSystem) (writes : List Write) : FileSystem :=
  writes.foldl (fun fs w => (writeLine fs w.target w.now w.line).1) fs

/-- The lines that are written to a location. -/
def linesAt (l : Location) (writes : List Write) : Bytes :=
  writes.flatMap fun w => if w.target = some l then Bytes.ofString (w.line ++ "\n") else []

/-- **A line stands behind what its file held**, and nothing else changes. -/
theorem node_writeLine (fs : FileSystem) (w : Write) (l : Location) :
    ((writeLine fs w.target w.now w.line).1.find? l).map Entry.node =
      (fs.find? l).map fun e => e.node.extend
        (if w.target = some l then Bytes.ofString (w.line ++ "\n") else []) := by
  have same : (fs.find? l).map Entry.node = (fs.find? l).map fun e => e.node.extend [] := by
    simp only [Node.extend_nil]
  obtain ⟨target, now, line⟩ := w
  cases target with
  | none => simpa [writeLine] using same
  | some m =>
      by_cases here : m = l
      · subst here
        rw [if_pos rfl]
        exact FileSystem.node_append_self fs m now _
      · have other : ¬ some m = some l := fun h => here (Option.some.inj h)
        rw [if_neg other, ← same]
        exact congrArg _ (FileSystem.find?_append_of_ne fs (Ne.symm here) now _)

/-- **Whatever is written, every file holds what it held before with the lines written to it
behind**, and nothing else changes, comes or goes. -/
theorem node_writeAll (fs : FileSystem) (writes : List Write) (l : Location) :
    ((writeAll fs writes).find? l).map Entry.node =
      (fs.find? l).map fun e => e.node.extend (linesAt l writes) := by
  induction writes generalizing fs with
  | nil => simp only [writeAll, linesAt, List.foldl_nil, List.flatMap_nil, Node.extend_nil]
  | cons w writes ih =>
      have first := node_writeLine fs w l
      have rest := ih (writeLine fs w.target w.now w.line).1
      have lines : linesAt l (w :: writes) =
          (if w.target = some l then Bytes.ofString (w.line ++ "\n") else []) ++
            linesAt l writes := List.flatMap_cons
      rw [lines]
      generalize (if w.target = some l then Bytes.ofString (w.line ++ "\n") else []) = line
        at first ⊢
      calc ((writeAll fs (w :: writes)).find? l).map Entry.node
          = (((writeLine fs w.target w.now w.line).1.find? l).map Entry.node).map
              (Node.extend (linesAt l writes)) := by rw [Option.map_map]; exact rest
        _ = (fs.find? l).map fun e => e.node.extend (line ++ linesAt l writes) := by
            rw [first, Option.map_map]
            simp only [Function.comp_def, Node.extend_extend]

/-- **Opening the logs destroys nothing.**  Whether both are opened, one of them cannot be, or
there are logs already: all that stands stands as before, and what is new is an empty file to
which the path of a log leads, or a directory above one.  If the access log cannot be opened,
nothing but directories above it is new, whatever the path of the error log is, since that is
not tried.  Logs that were opened are where their paths lead, and what is written to them
later, at whatever time, stands behind what they held. -/
theorem openAll_destroys_nothing (fs : FileSystem) (settings : Settings.Logging)
    (now : Time.Instant) :
    (∀ current, GrowsBy (directories settings) (files settings) fs
      (openAll fs current settings now).1) ∧
    (∀ fs' e, openNamed fs settings.accessLogFile now = (fs', .error e) →
      GrowsBy (above settings.accessLogFile) [] fs fs' ∧
        ∀ current path,
          openAll fs current { settings with errorLogFile := path } now = (fs', .error e)) ∧
    (∀ fs' current logs, openAll fs current settings now = (fs', .ok logs) →
      LeadsTo fs' settings.accessLogFile logs.access ∧
        LeadsTo fs' settings.errorLogFile logs.errors) ∧
    ∀ later writes l, ((writeAll later writes).find? l).map Entry.node =
      (later.find? l).map fun e => e.node.extend (linesAt l writes) := by
  refine ⟨?_, ?_, ?_, node_writeAll⟩
  · intro current
    exact growsBy_openAll fs current settings now
  · intro fs' e failed
    refine ⟨?_, ?_⟩
    · rcases openNamed_cases fs settings.accessLogFile now with
        ⟨fs₁, target, opened, -, -⟩ | ⟨fs₁, e', failed', grows⟩
      · rw [opened] at failed
        cases failed
      · rw [failed'] at failed
        cases failed
        exact grows
    · intro current path
      exact openAll_of_access_error current failed
  · intro fs' current logs opened
    exact leadsTo_of_openAll opened

namespace Example

/-- A directory with an error log, and with a file where a directory would have to be. -/
def shelf : FileSystem where
  entries := [([Bytes.ofString "error.log"], { node := .file (Bytes.ofString "old\n") }),
    ([Bytes.ofString "shut"], { node := .file [] })]
  distinct := by decide +kernel

/-- Two logs, the second of which is the one on the shelf. -/
def logging (access : String) : Settings.Logging where
  accessLogFile := some access
  errorLogFile := some "error.log"

end Example

/-- An error log that was there keeps what it held; an access log that cannot be opened leaves
it alone. -/
theorem openAll_shelf :
    (∃ fs' logs, openAll Example.shelf none (Example.logging "new/access.log") (.ofSeconds 1) =
        (fs', .ok logs) ∧
      LeadsTo fs' (some "new/access.log") logs.access ∧
      fs'.find? [Bytes.ofString "error.log"] =
        some { node := .file (Bytes.ofString "old\n") } ∧
      ((writeAll fs' [⟨logs.errors, .ofSeconds 2, "more"⟩]).find?
          [Bytes.ofString "error.log"]).map Entry.node =
        some (.file (Bytes.ofString "old\nmore\n"))) ∧
    ∃ fs' e, openAll Example.shelf none (Example.logging "shut/access.log") (.ofSeconds 1) =
        (fs', .error e) ∧
      GrowsBy (above (some "shut/access.log")) [] Example.shelf fs' := by
  refine ⟨?_, ?_⟩
  · obtain ⟨grows, -, leads, writes⟩ := openAll_destroys_nothing Example.shelf
      (Example.logging "new/access.log") (.ofSeconds 1)
    have target : ((openAll Example.shelf none (Example.logging "new/access.log")
        (.ofSeconds 1)).2.toOption.map (·.errors)) = some (some [Bytes.ofString "error.log"]) := by
      decide +kernel
    have there : Example.shelf.find? [Bytes.ofString "error.log"] =
        some { node := .file (Bytes.ofString "old\n") } := by decide +kernel
    have kept := (grows none).keeps there
    generalize opened : openAll Example.shelf none (Example.logging "new/access.log")
      (.ofSeconds 1) = result at kept target ⊢
    obtain ⟨fs', outcome⟩ := result
    obtain ⟨logs, rfl, errors⟩ := exists_of_toOption_map target
    obtain ⟨access, -⟩ := leads fs' none logs opened
    refine ⟨fs', logs, rfl, access, kept, ?_⟩
    rw [writes, kept, errors]
    decide +kernel
  · obtain ⟨-, failing, -, -⟩ := openAll_destroys_nothing Example.shelf
      (Example.logging "shut/access.log") (.ofSeconds 1)
    have refused : (openNamed Example.shelf (some "shut/access.log") (.ofSeconds 1)).2.toOption =
        none := by decide +kernel
    generalize tried : openNamed Example.shelf (some "shut/access.log") (.ofSeconds 1) = result
      at refused
    obtain ⟨fs', outcome⟩ := result
    obtain ⟨e, rfl⟩ := exists_of_toOption_eq_none refused
    obtain ⟨grows, same⟩ := failing fs' e tried
    exact ⟨fs', e, same none (some "error.log"), grows⟩

end StaticPreview.LogFiles
