/-
# StaticPreview.Proofs.FileSystem.Listed -- what is listed is what its name leads to

A walk that has come to a directory goes on from there: putting a name behind the path
of a directory takes one more step from where that path leads (`walk_append`), whether
the path ends in a solidus or not.  So an entry that a directory lists is the one that
its name leads to below the directory, as long as it is no link and the path leads
anywhere at all (`eq_of_stat_push`).
-/
import StaticPreview.Proofs.FileSystem.Walk
import StaticPreview.Proofs.Path

namespace StaticPreview.FileSystem

variable {fs : FileSystem}

theorem lookup_of_mem {entries : List (Location × Entry)} {l : Location} {e : Entry}
    (distinct : (entries.map Prod.fst).Nodup) (member : (l, e) ∈ entries) :
    entries.lookup l = some e := by
  induction entries with
  | nil => cases member
  | cons x entries ih =>
      obtain ⟨m, other⟩ := x
      rw [List.map_cons, List.nodup_cons] at distinct
      rcases List.mem_cons.1 member with same | later
      · cases same
        exact List.lookup_cons_self
      · have apart : (l == m) = false := by
          rw [beq_eq_false_iff_ne]
          rintro rfl
          exact distinct.1 (List.mem_map.2 ⟨_, later, rfl⟩)
        rw [List.lookup_cons, apart]
        exact ih distinct.2 later

/-- An entry stands at its location. -/
theorem find?_of_mem {l : Location} {e : Entry} (member : (l, e) ∈ fs.entries) (below : l ≠ []) :
    fs.find? l = some e := by
  rw [find?, if_neg below]
  exact lookup_of_mem fs.distinct member

/-! ## Steps behind others -/

variable {onLink : Location → List Step → Except IoError Landing} {a l : Location}
  {ss tail : List Step}

/-- A step of a walk that ends somewhere goes to a location or to where a link starts,
whatever steps are behind it. -/
theorem walkWith_cons_of_found {step : Step}
    (h : walkWith fs true onLink a (step :: ss) = .ok (.found l)) :
    (∃ b, ∀ more, walkWith fs true onLink a (step :: more) = walkWith fs true onLink b more) ∨
      ∃ b way, ∀ more, walkWith fs true onLink a (step :: more) = onLink b (way ++ more) := by
  rw [walkWith] at h
  split at h
  · rename_i modified locked there
    cases step with
    | folder => exact Or.inl ⟨a, fun more => by rw [walkWith, there]⟩
    | here =>
        cases locked with
        | true => simp at h
        | false => exact Or.inl ⟨a, fun more => by simp [walkWith, there]⟩
    | up =>
        cases locked with
        | true => simp at h
        | false => exact Or.inl ⟨a.dropLast, fun more => by simp [walkWith, there]⟩
    | name entry =>
        cases locked with
        | true => simp at h
        | false =>
            simp only [Bool.false_eq_true, if_false] at h
            split at h
            · simp at h
            · rename_i short
              split at h
              · split at h <;> simp at h
              · rename_i target _ _ link
                exact Or.inr ⟨start target a, steps target, fun more => by
                  simp [walkWith, there, short, link]⟩
              · rename_i e noLink found
                obtain ⟨node, modified, locked⟩ := e
                cases node with
                | link target => exact absurd rfl (noLink target modified locked)
                | file | directory | socket | null =>
                    exact Or.inl ⟨a ++ [entry], fun more => by simp [walkWith, there, short, found]⟩
  · exact absurd h (by simp)

/-- Steps after which a walk is where it was. -/
def Stays (fs : FileSystem) (tail : List Step) : Prop :=
  ∀ (onLink : Location → List Step → Except IoError Landing) (a l : Location),
    walkWith fs true onLink a tail = .ok (.found l) → a = l

theorem stays_nil (fs : FileSystem) : fs.Stays [] := by
  intro onLink a l h
  simpa [walkWith] using h

theorem stays_folder (fs : FileSystem) : fs.Stays [.folder] := by
  intro onLink a l h
  rw [walkWith] at h
  split at h
  · exact stays_nil fs onLink a l h
  · exact absurd h (by simp)

/-- A walk that ends somewhere goes on from there, or from the first link on its way. -/
theorem walkWith_append (stays : fs.Stays tail) (more : List Step)
    (h : walkWith fs true onLink a (ss ++ tail) = .ok (.found l)) :
    walkWith fs true onLink a (ss ++ more) = walkWith fs true onLink l more ∨
      ∃ b way, onLink b (way ++ tail) = .ok (.found l) ∧
        walkWith fs true onLink a (ss ++ more) = onLink b (way ++ more) := by
  induction ss generalizing a with
  | nil =>
      rw [stays onLink a l h]
      exact Or.inl rfl
  | cons step ss ih =>
      rw [List.cons_append] at h
      rcases walkWith_cons_of_found h with ⟨b, goes⟩ | ⟨b, way, goes⟩
      · rw [goes] at h
        rw [List.cons_append, goes]
        exact ih h
      · rw [goes, ← List.append_assoc] at h
        rw [List.cons_append, goes, ← List.append_assoc]
        exact Or.inr ⟨b, way ++ ss, h, rfl⟩

/-- **A walk that ends somewhere goes on from there**, with some of its links left. -/
theorem walk_append {links : Nat} (stays : fs.Stays tail) (more : List Step)
    (h : walk fs true links a (ss ++ tail) = .ok (.found l)) :
    ∃ left, walk fs true links a (ss ++ more) = walk fs true left l more := by
  induction links generalizing a ss with
  | zero =>
      rcases walkWith_append stays more h with behind | ⟨b, way, refused, -⟩
      · exact ⟨0, behind⟩
      · exact absurd refused (by simp)
  | succ links ih =>
      rcases walkWith_append stays more h with behind | ⟨b, way, found, same⟩
      · exact ⟨links + 1, behind⟩
      · obtain ⟨left, behind⟩ := ih found
        exact ⟨left, same.trans behind⟩

/-! ## A name below a directory -/

variable {directory name : Bytes} {e e' : Entry} {entries : List (Bytes × Entry)}

theorem step_of_plain (plain : Path.IsPlain name) : Step.ofText? name = some (.name name) := by
  simp [Step.ofText?, plain.ne_nil, plain.ne_dot, plain.ne_up]

theorem getLast?_append_plain (plain : Path.IsPlain name) (s : Bytes) :
    (s ++ name).getLast? ≠ some Bytes.slash := by
  rw [List.getLast?_append]
  cases last : name.getLast? with
  | none => exact absurd (List.getLast?_eq_none_iff.1 last) plain.ne_nil
  | some b =>
      rintro ⟨⟩
      exact plain.no_slash (List.mem_of_getLast? last)

/-- A plain name behind a solidus is one more step. -/
theorem steps_append_slash (plain : Path.IsPlain name) (front : Bytes) :
    steps (front ++ Bytes.slash :: name) =
      (Pieces.split Bytes.slash front).filterMap Step.ofText? ++ [.name name] := by
  have last : (front ++ Bytes.slash :: name).getLast? ≠ some Bytes.slash := by
    have behind := getLast?_append_plain plain (front ++ [Bytes.slash])
    rwa [List.append_assoc] at behind
  rw [steps, if_neg last, Pieces.split_append_cons, plain.split, List.filterMap_append,
    List.append_nil]
  simp [step_of_plain plain]

/-- The path of a directory and that of a name below it differ in their last step. -/
theorem exists_steps_push (fs : FileSystem) (plain : Path.IsPlain name)
    (nonempty : directory ≠ []) :
    ∃ ss tail, fs.Stays tail ∧ steps directory = ss ++ tail ∧
      steps (Path.push directory name) = ss ++ [.name name] := by
  rw [Path.push_of_plain plain]
  by_cases last : directory.getLast? = some Bytes.slash
  · obtain ⟨front, rfl⟩ := List.getLast?_eq_some_iff.1 last
    refine ⟨(Pieces.split Bytes.slash front).filterMap Step.ofText?, [.folder], stays_folder fs,
      ?_, ?_⟩
    · have empty : (Pieces.split Bytes.slash []).filterMap Step.ofText? = [] := rfl
      rw [steps, if_pos last, Pieces.split_append_cons, List.filterMap_append, empty,
        List.append_nil]
    · rw [if_pos (Or.inr last), List.append_assoc]
      exact steps_append_slash plain front
  · refine ⟨(Pieces.split Bytes.slash directory).filterMap Step.ofText?, [], stays_nil fs, ?_, ?_⟩
    · rw [steps, if_neg last]
    · rw [if_neg (not_or.2 ⟨nonempty, last⟩)]
      exact steps_append_slash plain directory

theorem start_push (plain : Path.IsPlain name) (nonempty : directory ≠ []) (l : Location) :
    start (Path.push directory name) l = start directory l := by
  have same : Path.isAbsolute (Path.push directory name) = Path.isAbsolute directory := by
    rw [Path.push_of_plain plain]
    obtain ⟨b, rest, rfl⟩ := List.exists_cons_of_ne_nil nonempty
    split <;> rfl
  rw [start, start, same]

/-- A path can be listed when it leads to a directory that is not locked. -/
theorem list_eq_ok_iff : fs.list directory = .ok entries ↔
    ∃ l d, fs.find directory = .ok l ∧ fs.find? l = some d ∧ d.node.isDirectory = true ∧
      d.locked = false ∧ fs.children l = entries := by
  constructor
  · intro listed
    obtain ⟨l, found, listed⟩ := exists_of_bind_eq_ok listed
    obtain ⟨d, there, listed⟩ := exists_of_bind_eq_ok listed
    unfold entryAt at there
    split at there
    · rename_i d' stands
      cases there
      split at listed
      · cases listed
      · split at listed
        · cases listed
        · rename_i folder unlocked
          exact ⟨l, d, found, stands, by simpa using folder, by simpa using unlocked,
            Except.ok.inj listed⟩
    · cases there
  · rintro ⟨l, d, found, stands, folder, unlocked, rfl⟩
    rw [list, bind_of_eq_ok found, entryAt, stands, bind_of_eq_ok rfl, folder, unlocked]
    rfl

/-- One step from a directory to an entry that is no link ends at the entry. -/
theorem eq_of_walkWith_name {d : Entry} {m : Location} (stands : fs.find? l = some d)
    (here : fs.find? (l ++ [name]) = some e) (noLink : e.node.isLink = false)
    (h : walkWith fs true onLink l [.name name] = .ok (.found m)) : m = l ++ [name] := by
  rw [walkWith, stands] at h
  split at h
  · dsimp only at h
    split at h
    · cases h
    · split at h
      · cases h
      · rw [here] at h
        obtain ⟨node, modified, locked⟩ := e
        cases node with
        | link target => cases noLink
        | file | directory | socket | null =>
            simp only [walkWith, Except.ok.injEq, Landing.found.injEq] at h
            exact h.symm
  · cases h

/-- **What is listed under a name is what the name leads to**, if it is no link and its
path leads anywhere. -/
theorem eq_of_stat_push (listed : fs.list directory = .ok entries) (member : (name, e) ∈ entries)
    (plain : Path.IsPlain name) (noLink : e.node.isLink = false)
    (there : fs.stat (Path.push directory name) = .ok e') : e' = e := by
  obtain ⟨l, d, found, stands, -, -, rfl⟩ := list_eq_ok_iff.1 listed
  have nonempty : directory ≠ [] := by
    rintro rfl
    cases found
  have here : fs.find? (l ++ [name]) = some e :=
    find?_of_mem ((mem_children_iff fs l name e).1 member) (by simp)
  obtain ⟨ss, tail, stays, way, further⟩ := exists_steps_push fs plain nonempty
  have walked := walk_of_canonical (canonical_of_find found)
  obtain ⟨m, resolved, stands'⟩ := canonical_of_stat there
  have walked' := walk_of_canonical resolved
  rw [way] at walked
  obtain ⟨left, goesOn⟩ := walk_append stays [.name name] walked
  rw [start_push plain nonempty, further, goesOn] at walked'
  -- one step from the directory, which is no link, ends at the entry
  have arrived : m = l ++ [name] := by
    cases left with
    | zero => exact eq_of_walkWith_name stands here noLink walked'
    | succ links => exact eq_of_walkWith_name stands here noLink walked'
  rw [arrived, here] at stands'
  exact (Option.some.inj stands').symm

end StaticPreview.FileSystem
