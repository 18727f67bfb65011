/-
# StaticPreview.Proofs.FileSystem.Growth -- a file system to which entries are added

A file system grows when entries are added and everything else stays (`Growth`).  A path that
led somewhere leads to the same place then, since every step of its walk finds what it found
before; and one that missed its last name leads to what has been put there
(`walk_of_growth`).

So what is new can be told by the paths that lead to it in the end (`Named`), and stays told
while the file system grows further.  Making directories adds directories that its paths name,
also when it fails half-way (`growsBy_makeDirectories`); opening a file for writing adds an
empty file where its path leads, or nothing (`growsBy_openForWriting`).  What is written to a
file later stands behind what it held (`node_append_self`).
-/
import StaticPreview.FileSystem.Change
import StaticPreview.Proofs.FileSystem.Walk

namespace StaticPreview

namespace FileSystem

/-- Everything that stands in a file system stands in the other as it does here, and relative
paths start at the same directory. -/
structure Growth (fs fs' : FileSystem) : Prop where
  keeps : ∀ {l : Location} {e : Entry}, fs.find? l = some e → fs'.find? l = some e
  workingDirectory : fs'.workingDirectory = fs.workingDirectory

variable {fs fs' fs'' : FileSystem} {l : Location} {e : Entry} {p n : Bytes} {follow : Bool}

namespace Growth

theorem refl (fs : FileSystem) : Growth fs fs := ⟨id, rfl⟩

theorem trans (first : Growth fs fs') (next : Growth fs' fs'') : Growth fs fs'' where
  keeps := fun stands => next.keeps (first.keeps stands)
  workingDirectory := next.workingDirectory.trans first.workingDirectory

theorem insert (absent : fs.find? l = none) (e : Entry) : Growth fs (fs.insert l e) where
  keeps := by
    intro m e' stands
    have other : m ≠ l := by
      rintro rfl
      rw [absent] at stands
      cases stands
    rw [find?_insert_of_ne fs other, stands]
  workingDirectory := rfl

end Growth

/-! ## Walks -/

/-- What a walk missed is there, and is no link. -/
def Landing.Filled (fs : FileSystem) : Landing → Prop
  | .found _ => True
  | .absent d name => ∃ e, fs.find? (d ++ [name]) = some e ∧ e.node.isLink = false

theorem Landing.filled_insert (fs : FileSystem) (d : Location) (name : Bytes)
    (noLink : e.node.isLink = false) :
    (Landing.absent d name).Filled (fs.insert (d ++ [name]) e) := by
  have below : d ++ [name] ≠ [] := by simp
  exact ⟨e, find?_insert_self fs below e, noLink⟩

/-- From an entry that is no link a walk goes on behind it. -/
theorem walkWith_name {onLink : Location → List Step → Except IoError Landing} {a : Location}
    {entry : Bytes} {rest : List Step} {modified : Time.Instant} {locked : Bool}
    (there : fs.find? a = some { node := .directory, modified, locked })
    (unlocked : ¬ locked = true) (short : ¬ maxName < entry.length)
    (found : fs.find? (a ++ [entry]) = some e) (noLink : e.node.isLink = false) :
    walkWith fs follow onLink a (.name entry :: rest) =
      walkWith fs follow onLink (a ++ [entry]) rest := by
  obtain ⟨node, modified', locked'⟩ := e
  cases node with
  | link target => cases noLink
  | file | directory | socket | null => simp [walkWith, there, unlocked, short, found]

theorem walkWith_of_growth (grown : Growth fs fs') {landing : Landing}
    {onLink onLink' : Location → List Step → Except IoError Landing}
    (links : ∀ a ss, onLink a ss = .ok landing → onLink' a ss = .ok (.found landing.place))
    (filled : landing.Filled fs') {a : Location} {ss : List Step}
    (h : walkWith fs follow onLink a ss = .ok landing) :
    walkWith fs' follow onLink' a ss = .ok (.found landing.place) := by
  -- along the first walk: what it finds on its way stays, and it can miss only its last name
  fun_induction walkWith fs follow onLink a ss with
  | case1 =>
      rw [walkWith, ← Except.ok.inj h]
      rfl
  | case2 _ _ _ _ there ih =>
      rw [walkWith, grown.keeps there]
      exact ih h
  | case3 => cases h
  | case4 _ _ _ _ there unlocked ih =>
      rw [walkWith, grown.keeps there]
      simp only [unlocked]
      exact ih h
  | case5 => cases h
  | case6 _ _ _ _ there unlocked ih =>
      rw [walkWith, grown.keeps there]
      simp only [unlocked]
      exact ih h
  | case7 => cases h
  | case8 => cases h
  | case9 a _ _ there entry unlocked short absent =>
      obtain rfl := Except.ok.inj h
      obtain ⟨e, found, noLink⟩ := filled
      rw [walkWith_name (grown.keeps there) unlocked short found noLink]
      rfl
  | case10 => cases h
  | case11 a rest _ _ there entry unlocked short target _ _ link followed =>
      have ahead : walkWith fs' follow onLink' a (.name entry :: rest) =
          onLink' (start target a) (steps target ++ rest) := by
        simp [walkWith, grown.keeps there, unlocked, short, grown.keeps link, followed]
      exact ahead.trans (links _ _ h)
  | case12 a rest _ _ there entry unlocked short target _ _ link kept =>
      have here : walkWith fs' follow onLink' a (.name entry :: rest) =
          .ok (.found (a ++ [entry])) := by
        simp [walkWith, grown.keeps there, unlocked, short, grown.keeps link, kept]
      rw [here, ← Except.ok.inj h]
      rfl
  | case13 =>
      rename_i there _ unlocked short e noLink found ih
      rw [walkWith_name (grown.keeps there) unlocked short (grown.keeps found)
        (isLink_eq_false noLink)]
      exact ih h
  | case14 => cases h

/-- **A walk through a file system leads to the same place in one that has grown from it**, to
an entry if that has been filled in. -/
theorem walk_of_growth (grown : Growth fs fs') {landing : Landing} (filled : landing.Filled fs')
    {links : Nat} {a : Location} {ss : List Step} (h : walk fs follow links a ss = .ok landing) :
    walk fs' follow links a ss = .ok (.found landing.place) := by
  induction links generalizing a ss with
  | zero => exact walkWith_of_growth grown (by simp) filled h
  | succ links ih => exact walkWith_of_growth grown (fun _ _ => ih) filled h

theorem land_of_growth (grown : Growth fs fs') {landing : Landing} (filled : landing.Filled fs')
    (h : fs.land follow p = .ok landing) : fs'.land follow p = .ok (.found landing.place) := by
  obtain ⟨_, checked, walked⟩ := exists_of_bind_eq_ok h
  rw [land, checked, grown.workingDirectory]
  exact walk_of_growth grown filled walked

theorem landName_of_growth (grown : Growth fs fs') {landing : Landing}
    (filled : landing.Filled fs') (h : fs.landName p = .ok landing) :
    fs'.landName p = .ok (.found landing.place) := by
  obtain ⟨_, checked, walked⟩ := exists_of_bind_eq_ok h
  rw [landName, checked, grown.workingDirectory]
  exact walk_of_growth grown filled walked

theorem find_of_land (h : fs.land true p = .ok (.found l)) : fs.find p = .ok l := by
  rw [find, h]
  rfl

theorem find_of_growth (grown : Growth fs fs') (h : fs.find p = .ok l) : fs'.find p = .ok l := by
  obtain ⟨landing, landed, here⟩ := exists_of_bind_eq_ok h
  cases landing with
  | absent d name => cases here
  | found m =>
      obtain rfl := Except.ok.inj here
      have filled : (Landing.found m).Filled fs' := trivial
      exact find_of_land (land_of_growth grown filled landed)

/-! ## What is new -/

/-- What may be new: directories that certain paths name, and empty files that others lead to. -/
inductive Named (directories files : List Bytes) (fs : FileSystem) : Location → Entry → Prop
  | directory {q : Bytes} {l : Location} (named : q ∈ directories)
      (here : fs.landName q = .ok (.found l)) : Named directories files fs l { node := .directory }
  | file {q : Bytes} {l : Location} {now : Time.Instant} (named : q ∈ files)
      (here : fs.find q = .ok l) : Named directories files fs l { node := .file [], modified := now }

/-- A file system has grown by entries that certain paths name. -/
structure GrowsBy (directories files : List Bytes) (fs fs' : FileSystem) : Prop
    extends Growth fs fs' where
  new : ∀ {l : Location} {e : Entry}, fs.find? l = none → fs'.find? l = some e →
    Named directories files fs' l e

variable {directories directories' files files' : List Bytes}

theorem Named.of_growth (named : Named directories files fs l e) (grown : Growth fs fs') :
    Named directories files fs' l e := by
  cases named with
  | directory named here =>
      have filled : (Landing.found l).Filled fs' := trivial
      exact .directory named (landName_of_growth grown filled here)
  | file named here => exact .file named (find_of_growth grown here)

theorem Named.mono (named : Named directories files fs l e) (more : directories ⊆ directories')
    (more' : files ⊆ files') : Named directories' files' fs l e := by
  cases named with
  | directory named here => exact .directory (more named) here
  | file named here => exact .file (more' named) here

namespace GrowsBy

theorem refl (fs : FileSystem) : GrowsBy directories files fs fs where
  toGrowth := .refl fs
  new := by
    intro l e absent stands
    rw [absent] at stands
    cases stands

theorem mono (grows : GrowsBy directories files fs fs') (more : directories ⊆ directories')
    (more' : files ⊆ files') : GrowsBy directories' files' fs fs' where
  toGrowth := grows.toGrowth
  new := fun absent stands => (grows.new absent stands).mono more more'

theorem trans (first : GrowsBy directories files fs fs')
    (next : GrowsBy directories files fs' fs'') : GrowsBy directories files fs fs'' where
  toGrowth := first.toGrowth.trans next.toGrowth
  new := by
    intro l e absent stands
    cases between : fs'.find? l with
    | none => exact next.new between stands
    | some e' =>
        have same := next.keeps between
        rw [stands] at same
        obtain rfl := Option.some.inj same
        exact (first.new absent between).of_growth next.toGrowth

/-- One new entry. -/
theorem insert (absent : fs.find? l = none) (named : Named directories files (fs.insert l e) l e) :
    GrowsBy directories files fs (fs.insert l e) where
  toGrowth := .insert absent e
  new := by
    intro m e' before after
    by_cases same : m = l
    · subst same
      have below : m ≠ [] := by
        rintro rfl
        cases absent
      rw [find?_insert_self fs below] at after
      exact Option.some.inj after ▸ named
    · rw [find?_insert_of_ne fs same, before] at after
      cases after

end GrowsBy

/-! ## Changes that only add -/

/-- A new directory is where its path leads. -/
theorem growsBy_makeDirectory (named : p ∈ directories) (h : fs.makeDirectory p = .ok fs') :
    GrowsBy directories files fs fs' := by
  obtain ⟨landing, landed, made⟩ := exists_of_bind_eq_ok h
  cases landing with
  | found m => cases made
  | absent d name =>
      obtain rfl := Except.ok.inj made
      have absent := find?_of_landName_absent landed
      have here := landName_of_growth (.insert absent { node := .directory })
        (Landing.filled_insert fs d name rfl) landed
      exact .insert absent (.directory named here)

theorem growsBy_ensureDirectory (named : p ∈ directories) (h : fs.ensureDirectory p = .ok fs') :
    GrowsBy directories files fs fs' := by
  unfold ensureDirectory at h
  split at h
  · rename_i made
    exact growsBy_makeDirectory named (Except.ok.inj h ▸ made)
  · split at h
    · exact Except.ok.inj h ▸ .refl fs
    · cases h

/-- Directories that are made one above another, whether all of them can be made or not. -/
theorem growsBy_makeFrom {paths : List Bytes} (named : paths ⊆ directories) (fs : FileSystem) :
    GrowsBy directories files fs (fs.makeFrom paths).1 := by
  induction paths generalizing fs with
  | nil => exact .refl fs
  | cons p above ih =>
      obtain ⟨here, further⟩ := List.cons_subset.1 named
      rw [makeFrom]
      split
      · rename_i made
        exact growsBy_makeDirectory here made
      · split
        · have first := ih further fs
          split
          · rename_i made
            rw [made] at first
            exact first
          · rename_i made
            rw [made] at first
            split
            · rename_i last
              exact first.trans (growsBy_ensureDirectory here last)
            · exact first
        · split
          · exact .refl fs
          · exact .refl fs

theorem growsBy_makeDirectories (p : Bytes) (fs : FileSystem) :
    GrowsBy (p :: ancestors p) files fs (fs.makeDirectories p).1 := by
  unfold makeDirectories
  split
  · exact .refl fs
  · exact growsBy_makeFrom (List.Subset.refl _) fs

/-- **A file that is opened for writing is where its path leads**, and if it was not there
before, it is all that is new. -/
theorem growsBy_openForWriting {now : Time.Instant} (named : p ∈ files)
    (h : fs.openForWriting p now = .ok (fs', l)) :
    GrowsBy directories files fs fs' ∧ fs'.find p = .ok l := by
  unfold openForWriting at h
  split at h
  · obtain ⟨_, -, refused⟩ := exists_of_bind_eq_ok h
    cases refused
  · obtain ⟨landing, landed, opened⟩ := exists_of_bind_eq_ok h
    cases landing with
    | absent d name =>
        obtain ⟨rfl, rfl⟩ := Prod.mk.inj (Except.ok.inj opened)
        obtain ⟨_, -, walked⟩ := exists_of_bind_eq_ok landed
        have absent := find?_of_walk_absent walked
        have here := find_of_land (land_of_growth
          (.insert absent { node := .file [], modified := now })
          (Landing.filled_insert fs d name rfl) landed)
        exact ⟨.insert absent (.file named here), here⟩
    | found m =>
        obtain ⟨e, -, opened⟩ := exists_of_bind_eq_ok opened
        have same : (fs, m) = (fs', l) := by
          split at opened
          · cases opened
          · split at opened
            · cases opened
            · split at opened
              · cases opened
              · exact Except.ok.inj opened
        obtain ⟨rfl, rfl⟩ := Prod.mk.inj same
        exact ⟨.refl fs, find_of_land landed⟩

/-! ## Writing -/

theorem find?_append_of_ne (fs : FileSystem) {l m : Location} (h : m ≠ l)
    (now : Time.Instant) (data : Bytes) : (fs.append l now data).find? m = fs.find? m := by
  unfold append change
  split
  · exact find?_insert_of_ne fs h _
  · rfl

end FileSystem

/-- A node with more behind what it holds; only a file holds anything. -/
def Node.extend (data : Bytes) : Node → Node
  | .file content => .file (content ++ data)
  | node => node

theorem Node.extend_nil (n : Node) : n.extend [] = n := by
  cases n <;> simp [extend]

theorem Node.extend_extend (a b : Bytes) (n : Node) : (n.extend a).extend b = n.extend (a ++ b) := by
  cases n <;> simp [extend]

namespace FileSystem

theorem node_append_self (fs : FileSystem) (l : Location) (now : Time.Instant) (data : Bytes) :
    ((fs.append l now data).find? l).map Entry.node =
      (fs.find? l).map fun e => e.node.extend data := by
  unfold append change
  split
  · rename_i content modified locked stands
    have below : l ≠ [] := by
      rintro rfl
      cases stands
    rw [find?_insert_self fs below, stands]
    rfl
  · rename_i noFile
    cases stands : fs.find? l with
    | none => rfl
    | some e =>
        obtain ⟨node, modified, locked⟩ := e
        cases node with
        | file content => exact absurd stands (noFile content modified locked)
        | directory | link | socket | null => rfl

end FileSystem

end StaticPreview
