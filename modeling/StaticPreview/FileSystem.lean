/-
# StaticPreview.FileSystem -- a tree of files, links and directories

An entry stands at a *location*, the list of names from the top down, so that one
entry lies below another exactly when its location extends the other's.  The top
is a directory and has no entry of its own.  A locked entry can be seen but not
opened, and nothing can be looked up below it.

Not modelled: owners, the individual permission bits, hard links and the times of
directories.  How a path text leads to a location is `StaticPreview.FileSystem.Walk`.

* `find?_insert_self`, `find?_insert_of_ne`: what stands where after an insertion;
* `mem_children_iff`: a directory holds exactly the names of the entries right below it.
-/
import StaticPreview.Path
import StaticPreview.Time.Instant

namespace StaticPreview

/-- The names from the top of the tree down to an entry. -/
abbrev Location := List Bytes

namespace Location

/-- The absolute path of a location. -/
def path (l : Location) : Bytes := Path.extend [Bytes.slash] l

end Location

/-- What an entry is. -/
inductive Node where
  | file (content : Bytes)
  | directory
  /-- A symbolic link and the path it stands for. -/
  | link (target : Bytes)
  /-- A socket, which exists but cannot be opened. -/
  | socket
  /-- The device that is always empty and swallows what is written to it. -/
  | null
  deriving DecidableEq, Repr

namespace Node

/-- Whether a node is a directory. -/
def isDirectory : Node → Bool
  | .directory => true
  | _ => false

/-- Whether a node is a regular file. -/
def isFile : Node → Bool
  | .file _ => true
  | _ => false

/-- Whether a node is a link. -/
def isLink : Node → Bool
  | .link _ => true
  | _ => false

end Node

/-- A node with what the file system knows about it. -/
structure Entry where
  node : Node
  /-- When the content was last changed. -/
  modified : Time.Instant := .ofSeconds 0
  /-- Whether opening and looking up is forbidden. -/
  locked : Bool := false
  deriving DecidableEq, Repr

/-- A file system, with the directory that relative paths start from. -/
structure FileSystem where
  /-- What stands where. -/
  entries : List (Location × Entry) := []
  /-- Where relative paths start. -/
  workingDirectory : Location := []
  /-- At most one entry stands at a location. -/
  distinct : (entries.map Prod.fst).Nodup := by simp

namespace FileSystem

/-- The directory at the top. -/
def top : Entry := { node := .directory }

/-- What stands at a location. -/
def find? (fs : FileSystem) (l : Location) : Option Entry :=
  if l = [] then some top else fs.entries.lookup l

/-- The names and entries right below a location, in no particular order. -/
def children (fs : FileSystem) (l : Location) : List (Bytes × Entry) :=
  fs.entries.filterMap fun (at_, e) =>
    match at_.getLast? with
    | some name => if at_ = l ++ [name] then some (name, e) else none
    | none => none

/-! ## Changes -/

theorem nodup_filter {entries : List (Location × Entry)} (p : Location × Entry → Bool)
    (h : (entries.map Prod.fst).Nodup) : ((entries.filter p).map Prod.fst).Nodup :=
  h.sublist ((List.filter_sublist).map _)

theorem nodup_insert {entries : List (Location × Entry)} (l : Location) (e : Entry)
    (h : (entries.map Prod.fst).Nodup) :
    (((l, e) :: entries.filter (·.1 != l)).map Prod.fst).Nodup := by
  rw [List.map_cons, List.nodup_cons]
  refine ⟨?_, nodup_filter _ h⟩
  intro hm
  obtain ⟨x, hx, hxl⟩ := List.mem_map.1 hm
  have := (List.mem_filter.1 hx).2
  simp_all

/-- With an entry at a location, in place of what stood there. -/
def insert (fs : FileSystem) (l : Location) (e : Entry) : FileSystem where
  entries := (l, e) :: fs.entries.filter (·.1 != l)
  workingDirectory := fs.workingDirectory
  distinct := nodup_insert l e fs.distinct

/-- Without what stands at a location and all that is below it. -/
def erase (fs : FileSystem) (l : Location) : FileSystem where
  entries := fs.entries.filter fun (at_, _) => !l.isPrefixOf at_
  workingDirectory := fs.workingDirectory
  distinct := nodup_filter _ fs.distinct

/-- A location after everything at or below `source` has moved to `target`. -/
def relocate (source target l : Location) : Location :=
  if source.isPrefixOf l then target ++ l.drop source.length else l

theorem isPrefixOf_append (a b : Location) : a.isPrefixOf (a ++ b) = true := by
  simp

theorem eq_of_relocate_eq {source target a b : Location} (ha : target.isPrefixOf a = false)
    (hb : target.isPrefixOf b = false) (h : relocate source target a = relocate source target b) :
    a = b := by
  unfold relocate at h
  split at h <;> split at h
  · rename_i h1 h2
    rw [List.isPrefixOf_iff_prefix] at h1 h2
    obtain ⟨s, rfl⟩ := h1
    obtain ⟨t, rfl⟩ := h2
    simpa using h
  · exact absurd (h ▸ isPrefixOf_append _ _) (by simp [hb])
  · exact absurd (h.symm ▸ isPrefixOf_append _ _) (by simp [ha])
  · exact h

/-- With everything at or below `source` moved to `target`, in place of what is
there. -/
def move (fs : FileSystem) (source target : Location) : FileSystem where
  entries := (fs.erase target).entries.map fun (at_, e) => (relocate source target at_, e)
  workingDirectory := relocate source target fs.workingDirectory
  distinct := by
    rw [List.map_map]
    have h := (fs.erase target).distinct
    rw [List.nodup_iff_pairwise_ne, List.pairwise_map] at h ⊢
    refine List.Pairwise.imp_of_mem ?_ h
    intro a b ha hb hab he
    have ha := (List.mem_filter.1 ha).2
    have hb := (List.mem_filter.1 hb).2
    exact hab (eq_of_relocate_eq (by simpa using ha) (by simpa using hb) he)

/-! ## What stands where after a change -/

theorem lookup_filter_of_pos {entries : List (Location × Entry)} {p : Location → Bool}
    {l : Location} (h : p l = true) :
    (entries.filter (fun x => p x.1)).lookup l = entries.lookup l := by
  induction entries with
  | nil => rfl
  | cons x xs ih =>
      obtain ⟨a, e⟩ := x
      by_cases ha : l = a
      · subst ha
        rw [List.filter_cons_of_pos (by simpa using h)]
        rw [List.lookup_cons_self, List.lookup_cons_self]
      · have hb : (l == a) = false := by simpa using ha
        by_cases hp : p a = true
        · rw [List.filter_cons_of_pos (by simpa using hp)]
          simp only [List.lookup_cons, hb, ih]
        · rw [List.filter_cons_of_neg (by simpa using hp)]
          simp only [List.lookup_cons, hb, ih]

theorem find?_insert_self (fs : FileSystem) {l : Location} (h : l ≠ []) (e : Entry) :
    (fs.insert l e).find? l = some e := by
  simp [find?, h, insert]

theorem find?_insert_of_ne (fs : FileSystem) {l m : Location} (h : m ≠ l) (e : Entry) :
    (fs.insert l e).find? m = fs.find? m := by
  have hb : (m == l) = false := by simpa using h
  unfold find?
  split
  · rfl
  · simp only [insert, List.lookup_cons, hb]
    exact lookup_filter_of_pos (p := fun x => x != l) (by simpa using h)

/-- **A directory lists what stands right below it.** -/
theorem mem_children_iff (fs : FileSystem) (l : Location) (name : Bytes) (e : Entry) :
    (name, e) ∈ fs.children l ↔ (l ++ [name], e) ∈ fs.entries := by
  simp only [children, List.mem_filterMap]
  constructor
  · rintro ⟨⟨at_, e'⟩, hm, h⟩
    dsimp only at h
    split at h
    · split at h
      · rename_i hl
        simp only [Option.some.injEq, Prod.mk.injEq] at h
        obtain ⟨rfl, rfl⟩ := h
        rw [← hl]
        exact hm
      · exact absurd h (by simp)
    · exact absurd h (by simp)
  · intro h
    exact ⟨_, h, by simp⟩

end FileSystem

end StaticPreview
