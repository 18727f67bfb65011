/-
# StaticPreview.Proofs.Settings.Said -- what a source says of one setting

Of the fields of a source that concern a setting the last one counts.  When that gives a
value for the setting, alone or within its section (`Puts`), the source sets it to that value
(`Sets`), whatever else it holds: the value stands for the setting in every tree that the
source is put into (`leaf?_setAll_of_sets`), and as long as no stronger source concerns the
setting it is what the setting is taken from (`leaf?_of_file`, `leaf?_of_variables`,
`leaf?_of_unasked`).
-/
import StaticPreview.Proofs.Settings.Apart
import StaticPreview.Proofs.Settings.Environment
import StaticPreview.Proofs.Settings.File

namespace StaticPreview.Settings

open StaticPreview.Number StaticPreview.Text

/-- Whether a field gives a value for a setting: under its names, or last of that name in a
table for its section. -/
inductive Puts (k : Setting) (v : Value) : String × Value → Prop
  | key {path head name : String} (read : Key.read path = ⟨head, [.name name]⟩)
      (area : toLower head = k.area) (named : toLower name = k.name) : Puts k v (path, v)
  | area {path head name : String} {origin : Option String} {before after : Fields Value}
      (read : Key.read path = ⟨head, []⟩) (area : toLower head = k.area)
      (named : toLower name = k.name) (last : ∀ y ∈ after, toLower y.1 ≠ k.name) :
      Puts k v (path, .table origin (before ++ (name, v) :: after))

/-- Whether the fields of a source set a setting to a value.  A table is no such value. -/
structure Sets (fields : Fields Value) (k : Setting) (v : Value) : Prop where
  leaf : v.IsLeaf
  last : ∃ before x after, fields = before ++ x :: after ∧ Puts k v x ∧
    ∀ y ∈ after, concerns y k = false

variable {k : Setting} {v : Value} {fields : Fields Value}

/-! ## In a tree -/

theorem get?_mergeFields_of_silent {name : String} {t : Value}
    (silent : ∀ x ∈ fields, toLower x.1 ≠ name) (found : t.get? name = some v) :
    (t.mergeFields fields).get? name = some v :=
  (variants_mergeFields silent ⟨found, found, fun _ _ => rfl⟩).left

theorem mergeFields_append (t : Value) (fields more : Fields Value) :
    t.mergeFields (fields ++ more) = (t.mergeFields fields).mergeFields more := by
  induction fields generalizing t with
  | nil => rw [List.nil_append, Value.mergeFields]
  | cons x fields ih => rw [List.cons_append, Value.mergeFields, Value.mergeFields, ih]

/-- A field that gives a value for a setting puts it where the setting is. -/
theorem leaf?_set_of_puts {x : String × Value} (leaf : v.IsLeaf) (puts : Puts k v x)
    (root : Value) : (root.set (Key.read x.1) x.2).leaf? k = some v := by
  cases puts with
  | key read area named =>
      simp only [read, Value.set, Value.setParts]
      rw [leaf?_put_of_eq area.symm, merge_of_isLeaf leaf, named, Value.get?_put_self]
  | @area path head name origin before after read area named last =>
      simp only [read, Value.set, Value.setParts, Value.merge]
      rw [leaf?_put_of_eq area.symm, mergeFields_append, Value.mergeFields, merge_of_isLeaf leaf,
        named]
      exact get?_mergeFields_of_silent last (Value.get?_put_self _ _ _)

/-- **What a source says of a setting stands for it**, whatever the source is put into. -/
theorem leaf?_setAll_of_sets (sets : Sets fields k v) (root : Value) :
    (root.setAll fields).leaf? k = some v := by
  obtain ⟨before, x, after, rfl, puts, later⟩ := sets.last
  rw [setAll_append, setAll_cons]
  exact leaf?_setAll_of_silent later (leaf?_set_of_puts sets.leaf puts _)

/-- A source that has a setting in its section, and nothing else, sets it. -/
theorem sets_section (leaf : v.IsLeaf) (origin : Option String) :
    Sets [(k.area, .table origin [(k.name, v)])] k v where
  leaf := leaf
  last := by
    have puts : Puts k v (k.area, .table origin ([] ++ (k.name, v) :: [])) :=
      .area k.read_area k.toLower_area k.toLower_name (by simp)
    exact ⟨[], _, [], rfl, puts, by simp⟩

/-! ## Origins -/

theorem isLeaf_withOrigin (leaf : v.IsLeaf) (origin : String) : (v.withOrigin origin).IsLeaf := by
  intro from_ fields same
  cases v with
  | scalar | sequence => simp [Value.withOrigin] at same
  | table before entries => exact leaf _ _ rfl

theorem concerns_withOrigin (x : String × Value) (origin : String) (k : Setting) :
    concerns (x.1, x.2.withOrigin origin) k = concerns x k := by
  obtain ⟨path, v⟩ := x
  simp only [concerns]
  cases (Key.read path).parts with
  | cons part rest => cases part <;> rfl
  | nil =>
      cases v with
      | scalar | sequence => rfl
      | table before entries =>
          simp only [Value.withOrigin, Value.fieldsWithOrigin_eq_map, List.any_map,
            Function.comp_def]

theorem Puts.withOrigin {x : String × Value} (puts : Puts k v x) (origin : String) :
    Puts k (v.withOrigin origin) (x.1, x.2.withOrigin origin) := by
  cases puts with
  | key read area named => exact .key read area named
  | area read area named last =>
      simp only [Value.withOrigin, Value.fieldsWithOrigin_eq_map, List.map_append, List.map_cons]
      refine .area read area named ?_
      intro y member
      obtain ⟨z, inside, rfl⟩ := List.mem_map.1 member
      exact last z inside

theorem Sets.withOrigin (sets : Sets fields k v) (origin : String) :
    Sets (Value.fieldsWithOrigin origin fields) k (v.withOrigin origin) where
  leaf := isLeaf_withOrigin sets.leaf origin
  last := by
    obtain ⟨before, x, after, rfl, puts, later⟩ := sets.last
    rw [Value.fieldsWithOrigin_eq_map, List.map_append, List.map_cons]
    refine ⟨_, _, _, rfl, puts.withOrigin origin, ?_⟩
    intro y member
    obtain ⟨z, inside, rfl⟩ := List.mem_map.1 member
    rw [concerns_withOrigin]
    exact later z inside

/-! ## What is asked for at the start -/

/-- What is not asked for at the start is not concerned by what is. -/
theorem concerns_overrides {o : Overrides} (unasked : o.layer k = none) :
    ∀ x ∈ o.fields, concerns x k = false := by
  have silent (own : Setting) (v : Value) (asked : (o.layer own).isSome) :
      concerns (own.key, v) k = false := by
    apply concerns_key_eq_false_iff.2
    rintro rfl
    rw [unasked] at asked
    cases asked
  intro x member
  simp only [Overrides.fields, List.mem_append, Option.mem_toList, Option.map_eq_some_iff] at member
  rcases member with (⟨y, asked, rfl⟩ | ⟨y, asked, rfl⟩) | ⟨y, asked, rfl⟩
  · exact silent .host _ (Option.isSome_of_eq_some asked)
  · exact silent .port _ (Option.isSome_of_eq_some asked)
  · exact silent .root _ (Option.isSome_of_eq_some asked)

/-! ## Variables -/

theorem isLeaf_read (key text : String) : (Environment.read key text).IsLeaf := by
  intro origin fields
  unfold Environment.read
  dsimp only
  repeat' split
  all_goals simp [Value.ofScalar, Value.ofText]

theorem collect_append_cons {name : String} (named : toLower name = k.variable_) (text : String)
    (before after : List (String × String)) :
    Environment.collect (before ++ (name, text) :: after) =
      Environment.collect before ++
        (k.key, (Environment.read k.key text).withOrigin Environment.origin) ::
          Environment.collect after := by
  simp only [Environment.collect, List.filterMap_append, List.filterMap_cons,
    key?_of_toLower named, Option.map_some]

/-- A variable of a setting sets it to what its text is read as. -/
theorem sets_collect {name : String} (named : toLower name = k.variable_) (text : String)
    (before : List (String × String)) {after : List (String × String)}
    (later : ∀ x ∈ Environment.collect after, concerns x k = false) :
    Sets (Environment.collect (before ++ (name, text) :: after)) k
      ((Environment.read k.key text).withOrigin Environment.origin) where
  leaf := isLeaf_withOrigin (isLeaf_read k.key text) _
  last := ⟨_, _, _, collect_append_cons named text before after,
    .key k.read_key k.toLower_area k.toLower_name, later⟩

/-! ## The settings file -/

/-- Whether the settings file of a name, whose content is a text in UTF-8, sets a setting to a
value. -/
inductive FileSets (fs : FileSystem) (name : String) (k : Setting) (v : Value) : Prop where
  | found {p : Bytes} {format : File.Format} {s : List Char} {fields : Fields Value}
      (there : File.find? fs (File.place fs name) = some (p, format))
      (read : fs.read p = .ok (Utf8.encode s)) (written : format.fields? s = some fields)
      (sets : Sets fields k v)

theorem exists_load_of_fileSets {fs : FileSystem} {name : String} (sets : FileSets fs name k v) :
    ∃ fields origin, File.load fs name = .ok fields ∧ Sets fields k (v.withOrigin origin) := by
  obtain ⟨there, read, written, inside⟩ := sets
  exact ⟨_, _, File.load_of_find? there read written, inside.withOrigin _⟩

/-- A working directory with one file in it. -/
def Example.withOnly (name : String) (content : Bytes) : FileSystem where
  entries :=
    [([Bytes.ofString "w"], { node := .directory }),
      ([Bytes.ofString "w", Bytes.ofString name], { node := .file content })]
  workingDirectory := [Bytes.ofString "w"]

/-! ## All sources -/

theorem load_eq_ok_iff {fs : FileSystem} {name : String} {environment : List (String × String)}
    {o : Overrides} {s : Settings} :
    load fs name environment o = .ok s ↔ ∃ fields, File.load fs name = .ok fields ∧
      decode (merge [defaults, fields, Environment.collect environment, o.fields]) = .ok s :=
  bind_eq_ok_iff

theorem merge_overrides (fields variables_ overrides : Fields Value) :
    merge [defaults, fields, variables_, overrides] =
      (merge [defaults, fields, variables_]).setAll overrides :=
  rfl

/-- What a file sets stands when no variable concerns it. -/
theorem leaf?_of_file (sets : Sets fields k v) {variables_ : Fields Value}
    (silent : ∀ x ∈ variables_, concerns x k = false) :
    (merge [defaults, fields, variables_]).leaf? k = some v :=
  leaf?_setAll_of_silent silent (leaf?_setAll_of_sets sets _)

/-- What a variable sets stands whatever the file says. -/
theorem leaf?_of_variables {variables_ : Fields Value} (sets : Sets variables_ k v)
    (fields : Fields Value) : (merge [defaults, fields, variables_]).leaf? k = some v :=
  leaf?_setAll_of_sets sets _

/-- What stands before is what stands in the end, unless something is asked for. -/
theorem leaf?_of_unasked {variables_ : Fields Value} {o : Overrides}
    (found : (merge [defaults, fields, variables_]).leaf? k = some v) (unasked : o.layer k = none) :
    (merge [defaults, fields, variables_, o.fields]).leaf? k = some v := by
  rw [merge_overrides]
  exact leaf?_setAll_of_silent (concerns_overrides unasked) found

end StaticPreview.Settings
