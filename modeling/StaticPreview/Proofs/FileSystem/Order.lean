/-
# StaticPreview.Proofs.FileSystem.Order -- the order of the entries does not show

A file system keeps its entries in some order, in which a directory hands them out.  Two
file systems that differ in nothing else are the same tree (`SameTree`): every path leads
to the same place in both, and a directory lists the same entries in both
(`SameTree.exists_list`).  It may list them in any order: for each there is such a file
system (`SameTree.exists_of_perm`).
-/
import Mathlib.Data.List.Perm.Basic
import StaticPreview.Proofs.FileSystem.Listed

namespace StaticPreview.FileSystem

/-- Two file systems that differ at most in the order of their entries. -/
structure SameTree (fs fs' : FileSystem) : Prop where
  perm : fs.entries.Perm fs'.entries
  workingDirectory : fs.workingDirectory = fs'.workingDirectory

theorem SameTree.refl (fs : FileSystem) : SameTree fs fs := ⟨.refl _, rfl⟩

theorem mem_of_lookup {entries : List (Location × Entry)} {l : Location} {e : Entry}
    (found : entries.lookup l = some e) : (l, e) ∈ entries := by
  obtain ⟨front, behind, rfl, -⟩ := List.lookup_eq_some_iff.1 found
  simp

theorem walkWith_congr {fs fs' : FileSystem} (same : ∀ l, fs.find? l = fs'.find? l)
    (follow : Bool) (onLink : Location → List Step → Except IoError Landing) (a : Location)
    (ss : List Step) : walkWith fs follow onLink a ss = walkWith fs' follow onLink a ss := by
  induction ss generalizing a with
  | nil => rw [walkWith, walkWith]
  | cons step ss ih => simp only [walkWith, same, ih]

namespace SameTree

variable {fs fs' : FileSystem}

theorem find?_eq (same : SameTree fs fs') (l : Location) : fs.find? l = fs'.find? l := by
  have lookup : fs.entries.lookup l = fs'.entries.lookup l := by
    apply Option.ext
    intro e
    constructor
    · intro found
      exact lookup_of_mem fs'.distinct (same.perm.mem_iff.1 (mem_of_lookup found))
    · intro found
      exact lookup_of_mem fs.distinct (same.perm.mem_iff.2 (mem_of_lookup found))
  rw [find?, find?, lookup]

theorem walk_eq (same : SameTree fs fs') (follow : Bool) (links : Nat) (a : Location)
    (ss : List Step) : walk fs follow links a ss = walk fs' follow links a ss := by
  induction links generalizing a ss with
  | zero => exact walkWith_congr same.find?_eq follow _ a ss
  | succ links ih =>
      have further : walk fs follow links = walk fs' follow links := by
        funext b rest
        exact ih b rest
      rw [walk, walk, further]
      exact walkWith_congr same.find?_eq follow _ a ss

theorem find_eq (same : SameTree fs fs') (p : Bytes) : fs.find p = fs'.find p := by
  simp only [find, land, same.walk_eq, same.workingDirectory]

theorem entryAt_eq (same : SameTree fs fs') (l : Location) : fs.entryAt l = fs'.entryAt l := by
  rw [entryAt, entryAt, same.find?_eq]

theorem leadsToDirectory_eq (same : SameTree fs fs') (p : Bytes) :
    fs.leadsToDirectory p = fs'.leadsToDirectory p := by
  have entry : fs.stat p = fs'.stat p := by
    simp only [stat, same.find_eq, same.entryAt_eq]
  rw [leadsToDirectory, leadsToDirectory, entry]

/-- **A directory lists the same entries in both.** -/
theorem exists_list {directory : Bytes} {entries : List (Bytes × Entry)}
    (same : SameTree fs fs') (listed : fs.list directory = .ok entries) :
    ∃ entries', fs'.list directory = .ok entries' ∧ entries.Perm entries' := by
  obtain ⟨l, d, found, stands, folder, unlocked, rfl⟩ := list_eq_ok_iff.1 listed
  rw [same.find_eq] at found
  rw [same.find?_eq] at stands
  exact ⟨fs'.children l, list_eq_ok_iff.2 ⟨l, d, found, stands, folder, unlocked, rfl⟩,
    same.perm.filterMap _⟩

/-- What an entry right below a location is listed as. -/
def childOf? (l : Location) (x : Location × Entry) : Option (Bytes × Entry) :=
  match x.1.getLast? with
  | some name => if x.1 = l ++ [name] then some (name, x.2) else none
  | none => none

theorem childOf?_append_singleton (l : Location) (x : Bytes × Entry) :
    childOf? l (l ++ [x.1], x.2) = some x := by
  simp [childOf?]

theorem eq_of_childOf? {l : Location} {x : Location × Entry} {y : Bytes × Entry}
    (child : childOf? l x = some y) : x = (l ++ [y.1], y.2) := by
  unfold childOf? at child
  split at child
  · split at child
    · rename_i here
      cases child
      exact Prod.ext here rfl
    · cases child
  · cases child

theorem map_filterMap_childOf? (l : Location) (entries : List (Location × Entry)) :
    (entries.filterMap (childOf? l)).map (fun y => (l ++ [y.1], y.2)) =
      entries.filter fun x => (childOf? l x).isSome := by
  induction entries with
  | nil => rfl
  | cons x entries ih =>
      cases child : childOf? l x with
      | none => simp [child, ih]
      | some y =>
          rw [List.filterMap_cons_some child, List.map_cons, ih, ← eq_of_childOf? child,
            List.filter_cons_of_pos (by rw [child]; rfl)]

/-- **A directory may list its entries in any order.** -/
theorem exists_of_perm {directory : Bytes} {entries entries' : List (Bytes × Entry)}
    (listed : fs.list directory = .ok entries) (perm : entries.Perm entries') :
    ∃ fs', fs.SameTree fs' ∧ fs'.list directory = .ok entries' := by
  obtain ⟨l, d, found, stands, folder, unlocked, rfl⟩ := list_eq_ok_iff.1 listed
  -- the entries of the directory come first, in their new order
  let arranged := entries'.map (fun y => (l ++ [y.1], y.2)) ++
    fs.entries.filter fun x => !(childOf? l x).isSome
  have rearranged : fs.entries.Perm arranged := by
    have children : (fs.entries.filter fun x => (childOf? l x).isSome).Perm
        (entries'.map fun y => (l ++ [y.1], y.2)) := by
      rw [← map_filterMap_childOf?]
      exact perm.map _
    exact (List.filter_append_perm _ fs.entries).symm.trans (children.append_right _)
  let fs' : FileSystem :=
    { entries := arranged
      workingDirectory := fs.workingDirectory
      distinct := (rearranged.map Prod.fst).nodup_iff.1 fs.distinct }
  have same : fs.SameTree fs' := ⟨rearranged, rfl⟩
  refine ⟨fs', same, list_eq_ok_iff.2 ⟨l, d, ?_, ?_, folder, unlocked, ?_⟩⟩
  · rw [← same.find_eq]
    exact found
  · rw [← same.find?_eq]
    exact stands
  · show arranged.filterMap (childOf? l) = entries'
    have first : (entries'.map fun y => (l ++ [y.1], y.2)).filterMap (childOf? l) = entries' := by
      rw [List.filterMap_map]
      have back : childOf? l ∘ (fun y => (l ++ [y.1], y.2)) = some := by
        funext y
        exact childOf?_append_singleton l y
      rw [back, List.filterMap_some]
    have rest :
        (fs.entries.filter fun x => !(childOf? l x).isSome).filterMap (childOf? l) = [] := by
      rw [List.filterMap_eq_nil_iff]
      intro x member
      simpa using (List.mem_filter.1 member).2
    rw [List.filterMap_append, first, rest, List.append_nil]

end SameTree

end StaticPreview.FileSystem
