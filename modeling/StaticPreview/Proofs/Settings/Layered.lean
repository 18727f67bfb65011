/-
# StaticPreview.Proofs.Settings.Layered -- the strongest source wins, setting by setting

What holds when nothing is said, the settings file, the environment and what is asked for
at the start of the program are each a source that tells a layer (`tells_defaults`,
`exists_fields_of_fileTells`, `tells_collect`, `tells_overrides`).  Merged, they stand for
the layers laid over one another, and so every setting is, by itself, what the strongest
source says that sets it (`load_of_layers`).

Lists are settings like any other: they are replaced as a whole.  But not every list can
be spelt in the environment: the empty list is spelt like the list of one empty text, and
a comma within an item like one between items (`not_load_of_every_value`).
-/
import StaticPreview.Proofs.Settings.Decode
import StaticPreview.Proofs.Settings.Environment
import StaticPreview.Proofs.Settings.File

namespace StaticPreview.Settings

open StaticPreview.Number StaticPreview.Text

/-! ## Layers as fields -/

/-- A value of a kind as a source says it. -/
def Kind.value : (kind : Kind) → kind.Datum → Value
  | .text, s => .ofText s
  | .port, n => .ofScalar (.integer n.toNat)
  | .boolean, b => .ofScalar (.boolean b)
  | .texts, ss => .ofTexts ss
  | .seconds, n => .ofScalar (.integer n.toNat)

theorem holds_value {kind : Kind} (y : kind.Datum) : kind.Holds (kind.value y) y := by
  cases kind with
  | texts => exact ⟨none, _, rfl, forall₂_isText y⟩
  | text | port | boolean | seconds => exact ⟨none, rfl⟩

/-- What a layer says of some settings, under their keys. -/
def Layer.fields (l : Layer) (settings : List Setting) : Fields Value :=
  settings.filterMap fun k => (l k).map fun y => (k.key, k.kind.value y)

theorem fields_cons (l : Layer) (k : Setting) (settings : List Setting) :
    l.fields (k :: settings) =
      ((l k).map fun y => (k.key, k.kind.value y)).toList ++ l.fields settings := by
  rw [Layer.fields, List.filterMap_cons]
  cases l k <;> rfl

theorem tells_fields {l : Layer} {settings : List Setting}
    (all : ∀ k y, l k = some y → k ∈ settings) : Tells (l.fields settings) l := by
  apply tells_of_keys
  · intro x member
    obtain ⟨k, -, said⟩ := List.mem_filterMap.1 member
    obtain ⟨y, set, rfl⟩ := Option.map_eq_some_iff.1 said
    exact ⟨k, y, rfl, set, holds_value y⟩
  · intro k y set
    refine ⟨k.kind.value y, List.mem_filterMap.2 ⟨k, all k y set, ?_⟩⟩
    rw [set, Option.map_some]

/-- The settings of a section. -/
def Setting.within (area : String) : List Setting :=
  [host, port, root, accessLog, accessLogFormat, accessLogFile, errorLogFile, probePaths,
    indexFiles, directoryListing, requestTimeout].filter fun k => k.area = area

/-- A setting of each section. -/
def Setting.heads : List Setting := [host, accessLog, probePaths, requestTimeout]

/-- What a layer says of the settings of a section. -/
def Layer.entries (l : Layer) (area : String) : Fields Value :=
  (Setting.within area).filterMap fun k => (l k).map fun y => (k.name, k.kind.value y)

/-- What a layer says, section by section. -/
def Layer.sections (l : Layer) : Fields Value :=
  Setting.heads.map fun head => (head.area, .table none (l.entries head.area))

theorem mem_within (k : Setting) : k ∈ Setting.within k.area := by
  cases k <;> decide

theorem exists_head (k : Setting) : ∃ head ∈ Setting.heads, head.area = k.area := by
  cases k <;> decide

theorem tells_sections (l : Layer) : Tells l.sections l where
  known x member := by
    obtain ⟨head, -, rfl⟩ := List.mem_map.1 member
    refine Or.inr ⟨head, none, _, rfl, ?_⟩
    intro y entry
    obtain ⟨k, inside, said⟩ := List.mem_filterMap.1 entry
    obtain ⟨z, -, rfl⟩ := Option.map_eq_some_iff.1 said
    exact ⟨k, by simpa using (List.mem_filter.1 inside).2, rfl⟩
  sound x member k v mentions := by
    obtain ⟨head, -, rfl⟩ := List.mem_map.1 member
    obtain ⟨-, inside⟩ := mentions_area_iff.1 mentions
    obtain ⟨k', -, said⟩ := List.mem_filterMap.1 inside
    obtain ⟨y, set, same⟩ := Option.map_eq_some_iff.1 said
    obtain ⟨named, rfl⟩ := Prod.mk.inj same
    obtain rfl : k' = k := Setting.name_injective named
    exact ⟨y, set, holds_value y⟩
  complete k y set := by
    obtain ⟨head, member, area⟩ := exists_head k
    refine ⟨_, List.mem_map.2 ⟨head, member, rfl⟩, k.kind.value y,
      mentions_area_iff.2 ⟨area.symm, ?_⟩⟩
    rw [area]
    exact List.mem_filterMap.2 ⟨k, mem_within k, by rw [set, Option.map_some]⟩

/-- What holds when nothing is said is told by the defaults. -/
theorem tells_defaults : Tells defaults .standard := by
  have fields : defaults = Layer.standard.fields
      [.host, .port, .root, .accessLog, .accessLogFormat, .requestTimeout, .probePaths,
        .indexFiles, .directoryListing] := by
    decide +kernel
  rw [fields]
  apply tells_fields
  intro k y set
  cases k with
  | accessLogFile | errorLogFile => cases set
  | _ => decide

theorem tells_overrides (o : Overrides) : Tells o.fields o.layer := by
  have host : Setting.host.key = "server.host" := by decide
  have port : Setting.port.key = "server.port" := by decide
  have root : Setting.root.key = "server.root" := by decide
  have fields : o.fields = o.layer.fields [.host, .port, .root] := by
    rw [fields_cons, fields_cons, fields_cons, host, port, root, Overrides.fields,
      List.append_assoc]
    simp [Overrides.layer, Layer.fields, Kind.value]
  rw [fields]
  apply tells_fields
  intro k y set
  cases k with
  | host | port | root => decide
  | _ => cases set

/-! ## The settings file -/

theorem mentions_withOrigin_iff {origin : String} {x : String × Value} {k : Setting} {w : Value} :
    Mentions (x.1, x.2.withOrigin origin) k w ↔
      ∃ v, Mentions x k v ∧ w = v.withOrigin origin := by
  obtain ⟨name, value⟩ := x
  constructor
  · rintro (underKey | ⟨from_, entries, inTable, inside⟩)
    · obtain ⟨rfl, rfl⟩ := Prod.mk.inj underKey
      exact ⟨value, Or.inl rfl, rfl⟩
    · obtain ⟨rfl, table⟩ := Prod.mk.inj inTable
      cases value with
      | scalar | sequence => simp [Value.withOrigin] at table
      | table before fields =>
          simp only [Value.withOrigin, Value.table.injEq, Value.fieldsWithOrigin_eq_map] at table
          rw [← table.2] at inside
          obtain ⟨⟨_, v⟩, member, same⟩ := List.mem_map.1 inside
          obtain ⟨rfl, rfl⟩ := Prod.mk.inj same
          exact ⟨v, Or.inr ⟨before, fields, rfl, member⟩, rfl⟩
  · rintro ⟨v, underKey | ⟨before, fields, inTable, member⟩, rfl⟩
    · obtain ⟨rfl, rfl⟩ := Prod.mk.inj underKey
      exact Or.inl rfl
    · obtain ⟨rfl, rfl⟩ := Prod.mk.inj inTable
      refine Or.inr ⟨some origin, _, rfl, ?_⟩
      rw [Value.fieldsWithOrigin_eq_map]
      exact List.mem_map.2 ⟨_, member, rfl⟩

/-- Fields tell the same layer wherever they come from. -/
theorem Tells.withOrigin {fields : Fields Value} {l : Layer} (tells : Tells fields l)
    (origin : String) : Tells (Value.fieldsWithOrigin origin fields) l := by
  rw [Value.fieldsWithOrigin_eq_map]
  constructor
  · intro x member
    obtain ⟨⟨name, v⟩, inside, rfl⟩ := List.mem_map.1 member
    rcases tells.known _ inside with underKey | ⟨k, before, entries, same, inArea⟩
    · exact Or.inl underKey
    · obtain ⟨rfl, rfl⟩ := Prod.mk.inj same
      refine Or.inr ⟨k, some origin, _, rfl, ?_⟩
      intro y there
      rw [Value.fieldsWithOrigin_eq_map] at there
      obtain ⟨z, entry, rfl⟩ := List.mem_map.1 there
      exact inArea z entry
  · intro x member k w mentions
    obtain ⟨y, inside, rfl⟩ := List.mem_map.1 member
    obtain ⟨v, said, rfl⟩ := mentions_withOrigin_iff.1 mentions
    obtain ⟨z, set, holds⟩ := tells.sound y inside k v said
    exact ⟨z, set, holds_withOrigin origin holds⟩
  · intro k y set
    obtain ⟨x, inside, v, mentions⟩ := tells.complete k y set
    exact ⟨_, List.mem_map.2 ⟨x, inside, rfl⟩, _, mentions_withOrigin_iff.2 ⟨v, mentions, rfl⟩⟩

theorem tells_nil : Tells [] fun _ => none where
  known _ member := nomatch member
  sound _ member := nomatch member
  complete _ _ set := nomatch set

/-- The settings file of a name, whose content is a text in UTF-8, tells a layer, or there is no
such file and the layer is empty. -/
inductive FileTells (fs : FileSystem) (name : String) : Layer → Prop where
  | found {p : Bytes} {format : File.Format} {s : List Char} {fields : Fields Value} {l : Layer}
      (there : File.find? fs (Path.push fs.workingDirectory.path (Bytes.ofString name)) =
        some (p, format))
      (read : fs.read p = .ok (Utf8.encode s)) (written : format.fields? s = some fields)
      (tells : Tells fields l) : FileTells fs name l
  | missing
      (absent : File.find? fs (Path.push fs.workingDirectory.path (Bytes.ofString name)) = none) :
      FileTells fs name fun _ => none

theorem exists_fields_of_fileTells {fs : FileSystem} {name : String} {l : Layer}
    (file : FileTells fs name l) : ∃ fields, File.load fs name = .ok fields ∧ Tells fields l := by
  cases file with
  | found there read written tells =>
      exact ⟨_, File.load_of_find? there read written, tells.withOrigin _⟩
  | missing absent =>
      refine ⟨[], ?_, tells_nil⟩
      delta File.load
      rw [absent]

/-! ## All sources -/

theorem standsFor_empty : Value.empty.StandsFor fun _ => none := fun _ => .none

theorem above_none (l : Layer) : (l.above fun _ => none) = l := by
  funext k
  exact Option.or_none

/-- **Every setting is what the strongest source says that sets it**, and as it is when
nothing was set where no source sets it. -/
theorem load_of_layers {fs : FileSystem} {name : String} {environment : List (String × String)}
    {fromFile fromEnvironment : Layer} (file : FileTells fs name fromFile)
    (variables_ : Environment.Assigns environment fromEnvironment) (o : Overrides) :
    load fs name environment o =
      .ok (o.layer.above (fromEnvironment.above fromFile)).settings := by
  obtain ⟨fields, loaded, tells⟩ := exists_fields_of_fileTells file
  have defaulted := standsFor_setAll tells_defaults standsFor_empty
  rw [above_none] at defaulted
  have merged := standsFor_setAll (tells_overrides o)
    (standsFor_setAll (tells_collect variables_) (standsFor_setAll tells defaulted))
  rw [← Layer.above_assoc, ← Layer.above_assoc, Layer.above_assoc o.layer] at merged
  rw [load, bind_of_eq_ok loaded]
  exact decode_of_standsFor merged

namespace Example

/-- A settings file. -/
def fileText : List Char :=
  ("[server]\nhost = \"::1\"\nport = 3000\n[logging]\naccess_log_file = \"a\" # kept\n" ++
    "[preview]\nprobe_paths = [\"/a\", \"b,c\"]\n[performance]\n").toList

/-- What that file sets. -/
def fileLayer : Layer
  | .host => some "::1"
  | .port => some 3000
  | .accessLogFile => some "a"
  | .probePaths => some ["/a", "b,c"]
  | _ => none

/-- The working directory with that file. -/
def withFile : FileSystem where
  entries :=
    [([Bytes.ofString "w"], { node := .directory }),
      ([Bytes.ofString "w", Bytes.ofString "preview.toml"],
        { node := .file (Utf8.encode fileText) })]
  workingDirectory := [Bytes.ofString "w"]
  distinct := by decide +kernel

/-- An environment. -/
def environment : List (String × String) :=
  [("HOME", "/"), ("Preview__Server__PORT", "+4000"), ("PREVIEW__preview__Probe_Paths", "/x,,y"),
    ("preview__logging__access_log", "FALSE")]

/-- What that environment sets. -/
def environmentLayer : Layer
  | .port => some 4000
  | .probePaths => some ["/x", "", "y"]
  | .accessLog => some false
  | _ => none

end Example

/-- A file, an environment and the start of the program, each of which wins somewhere. -/
theorem load_of_layers_three :
    load Example.withFile "preview.toml" Example.environment { root := some "dist" } =
      .ok
        { server := { host := "::1", port := 4000, root := "dist" }
          logging := { accessLog := false, accessLogFile := some "a" }
          preview := { probePaths := ["/x", "", "y"] } } := by
  have written : File.Format.toml.fields? Example.fileText = some Example.fileLayer.sections := by
    decide +kernel
  have file : FileTells Example.withFile "preview.toml" Example.fileLayer :=
    .found (p := Bytes.ofString "/w/preview.toml") (by decide +kernel) (by decide +kernel) written
      (tells_sections _)
  have variables_ : Environment.Assigns Example.environment Example.environmentLayer := by
    constructor
    · intro x member marked
      simp only [Example.environment, List.mem_cons, List.not_mem_nil, or_false] at member
      rcases member with rfl | rfl | rfl | rfl
      · exact absurd marked (by decide +kernel)
      · have spelt : Integer64.read "+4000".toList = .ok 4000 := by decide +kernel
        exact ⟨.port, 4000, by decide +kernel, rfl, spelt⟩
      · exact ⟨.probePaths, ["/x", "", "y"], by decide +kernel, rfl, by decide +kernel,
          by decide +kernel, by decide +kernel⟩
      · have spelt : toLower "FALSE" = "false" := by decide +kernel
        exact ⟨.accessLog, false, by decide +kernel, rfl, spelt⟩
    · intro k y set
      cases k with
      | port => exact ⟨("Preview__Server__PORT", "+4000"), by decide +kernel, by decide +kernel⟩
      | probePaths =>
          exact ⟨("PREVIEW__preview__Probe_Paths", "/x,,y"), by decide +kernel, by decide +kernel⟩
      | accessLog =>
          exact ⟨("preview__logging__access_log", "FALSE"), by decide +kernel, by decide +kernel⟩
      | _ => cases set
  rw [load_of_layers file variables_ { root := some "dist" }]
  rfl

/-- Not every list can be spelt in the environment, nor every number of seconds: the empty
list and an item with a comma are read as other lists, and a number of more than 63 bits
is read as the double next to it. -/
theorem not_load_of_every_value :
    (∀ p ∈ [(([] : List String), ""), (["a,b"], "a,b")],
      p.2.toList = Pieces.join ',' (p.1.map String.toList) ∧ IsPlain p.2 ∧
        load {} "preview.toml" [("PREVIEW__PREVIEW__INDEX_FILES", p.2)] {} ≠
          .ok { preview := { indexFiles := p.1 } }) ∧
      load {} "preview.toml" [("PREVIEW__PERFORMANCE__REQUEST_TIMEOUT", "9223372036854775809")] {} ≠
        .ok { performance := { requestTimeout := 9223372036854775809 } } := by
  refine ⟨?_, by decide +kernel⟩
  intro p member
  simp only [List.mem_cons, List.not_mem_nil, or_false] at member
  rcases member with rfl | rfl <;> decide +kernel

end StaticPreview.Settings
