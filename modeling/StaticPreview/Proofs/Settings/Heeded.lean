/-
# StaticPreview.Proofs.Settings.Heeded -- when a settings file is heeded

Settings heed the file under the very name that was given when it is of a known format, its
content is a text in UTF-8, and what that text sets, where nothing stronger concerns it, is what
they say (`Heeded`).  The file is heeded when all settings that come of it and other sources
do so (`Heeds`): when it cannot be used it is then a fault, and never passed over.

Not every file is heeded.  One whose extension is none of a format, that cannot be read, or
that is no UTF-8 counts as missing.  Nothing else is in the way: a file of a known format with a
text is heeded or, where the text is not what the extension says, always a fault (`heeds_iff`).
That none of these conditions can be left out is shown with an environment in which every setting
is set: there every file that is no fault gives settings (`load_of_full`).
-/
import StaticPreview.Proofs.Settings.Layered
import StaticPreview.Proofs.Settings.Said

namespace StaticPreview.Settings

open StaticPreview.Number StaticPreview.Text

/-! ## Every setting in the environment -/

/-- A value of each kind. -/
def Kind.sample : (kind : Kind) → kind.Datum
  | .text => "x"
  | .port => 1
  | .boolean => true
  | .texts => ["x"]
  | .seconds => 1

/-- How that value is spelt. -/
def Kind.spelling : Kind → String
  | .text | .texts => "x"
  | .port | .seconds => String.ofList (Decimal.digits 1)
  | .boolean => "true"

theorem spells_sample (kind : Kind) : kind.Spells kind.spelling kind.sample := by
  have plain : IsPlain "x" := by decide +kernel
  cases kind with
  | text => exact ⟨rfl, plain⟩
  | port => exact spells_port 1
  | boolean =>
      show toLower "true" = "true"
      decide +kernel
  | texts => exact ⟨by decide, plain, by simp [Kind.sample], by simp [Kind.sample]⟩
  | seconds => exact spells_seconds (n := 1) (by decide)

/-- A variable for every setting. -/
def Environment.full : List (String × String) :=
  (Setting.heads.flatMap fun head => Setting.within head.area).map fun k =>
    (k.variable_, k.kind.spelling)

/-- What those variables set. -/
def Layer.full : Layer := fun k => some k.kind.sample

theorem assigns_full : Environment.Assigns Environment.full Layer.full where
  sound x member marked := by
    obtain ⟨k, -, rfl⟩ := List.mem_map.1 member
    refine ⟨k, k.kind.sample, ?_, rfl, spells_sample k.kind⟩
    cases k <;> decide +kernel
  complete k y set := by
    obtain ⟨head, member, area⟩ := exists_head k
    have inside : k ∈ Setting.heads.flatMap fun head => Setting.within head.area :=
      List.mem_flatMap.2 ⟨head, member, area ▸ mem_within k⟩
    refine ⟨_, List.mem_map.2 ⟨k, inside, rfl⟩, ?_⟩
    cases k <;> decide +kernel

/-- Where every setting is set, nothing else matters. -/
theorem standsFor_of_full {fields : Fields Value} {l : Layer} (tells : Tells fields l)
    (full : ∀ k, ∃ y, l k = some y) (root : Value) :
    (root.setAll fields).StandsFor (l.above .standard) := by
  intro k
  obtain ⟨y, set⟩ := full k
  have strong : (l.above .standard) k = some y := by
    rw [Layer.above, set, Option.some_or]
  rw [strong]
  rcases leaf?_setAll tells (List.Subset.refl fields) root k with
    ⟨x, member, v, mentions, found⟩ | ⟨silent, -⟩
  · obtain ⟨z, same, holds⟩ := tells.sound x member k v mentions
    obtain rfl : y = z := Option.some.inj (set.symm.trans same)
    rw [found]
    exact .some holds
  · obtain ⟨x, member, v, mentions⟩ := tells.complete k y set
    exact absurd mentions (silent x member v)

theorem decode_of_full {variables_ : Fields Value} {l : Layer} (tells : Tells variables_ l)
    (full : ∀ k, ∃ y, l k = some y) (fields : Fields Value) :
    decode (merge [defaults, fields, variables_, ({} : Overrides).fields]) = .ok l.settings := by
  have nothing : ({} : Overrides).fields = [] := rfl
  have last (root : Value) : root.setAll [] = root := rfl
  have variablesLast : merge [defaults, fields, variables_] =
      (merge [defaults, fields]).setAll variables_ := rfl
  rw [merge_overrides, nothing, last, variablesLast]
  exact decode_of_standsFor (standsFor_of_full tells full _)

/-- Every file that is no fault gives settings in some environment. -/
theorem load_of_full {fs : FileSystem} {name : String} {fields : Fields Value}
    (fromFile : File.load fs name = .ok fields) :
    load fs name Environment.full {} = .ok Layer.full.settings := by
  have decoded := decode_of_full (tells_collect assigns_full) (fun k => ⟨_, rfl⟩) fields
  exact load_eq_ok_iff.2 ⟨fields, fromFile, decoded⟩

/-! ## Files that are heeded -/

/-- Settings to which a file has its part: it is of a known format, was read as the text it is,
and what it sets, where nothing stronger concerns it, is what they say. -/
inductive Heeded (fs : FileSystem) (p : Bytes) (environment : List (String × String))
    (o : Overrides) (s : Settings) : Prop where
  | used {format : File.Format} {text : List Char} {fields : Fields Value}
      (known : File.format? p = some format) (read : fs.read p = .ok (Utf8.encode text))
      (written : format.fields? text = some fields)
      (followed : ∀ k v, Sets fields k v →
        (∀ x ∈ Environment.collect environment, concerns x k = false) → o.layer k = none →
          k.take v = .ok (s.layer k))

/-- Whether settings never come without the file of a name. -/
def Heeds (fs : FileSystem) (name : String) : Prop :=
  ∀ environment o s, load fs name environment o = .ok s →
    Heeded fs (File.place fs name) environment o s

variable {fs : FileSystem} {name : String}

theorem heeds_of_text (there : File.isFile fs (File.place fs name) = true) {format : File.Format}
    {text : List Char} (known : File.format? (File.place fs name) = some format)
    (read : fs.read (File.place fs name) = .ok (Utf8.encode text)) : Heeds fs name := by
  intro environment o s loaded
  obtain ⟨loadedFields, fromFile, decoded⟩ := load_eq_ok_iff.1 loaded
  have found : File.find? fs (File.place fs name) = some (File.place fs name, format) := by
    rw [File.find?_of_isFile there, known, Option.map_some]
  cases written : format.fields? text with
  | none =>
      have fault := File.load_of_malformed found read written
      rw [fault] at fromFile
      cases fromFile
  | some fields =>
      rw [File.load_of_find? found read written] at fromFile
      obtain rfl := Except.ok.inj fromFile
      refine .used known read written ?_
      intro k v sets silent unasked
      have stated := sets.withOrigin (File.shown fs (File.place fs name))
      have leaf := leaf?_of_unasked (leaf?_of_file stated silent) unasked
      exact (take_withOrigin_iff _ v k).1 (take_of_decode decoded leaf)

/-- **A settings file is heeded exactly when it is of a known format, can be read and is
UTF-8.** -/
theorem heeds_iff (there : File.isFile fs (File.place fs name) = true) :
    Heeds fs name ↔ ∃ format text, File.format? (File.place fs name) = some format ∧
      fs.read (File.place fs name) = .ok (Utf8.encode text) := by
  constructor
  · intro heeds
    cases fromFile : File.load fs name with
    | error fault =>
        obtain ⟨format, text, known, read, -⟩ := File.of_load_eq_error there fromFile
        exact ⟨format, text, known, read⟩
    | ok fields =>
        obtain ⟨known, read⟩ := heeds _ _ _ (load_of_full fromFile)
        exact ⟨_, _, known, read⟩
  · rintro ⟨format, text, known, read⟩
    exact heeds_of_text there known read

/-- A settings file that is heeded. -/
theorem heeds_iff_toml : Heeds Example.withFile "preview.toml" := by
  have there : File.isFile Example.withFile (File.place Example.withFile "preview.toml") = true := by
    decide +kernel
  exact (heeds_iff there).2 ⟨.toml, Example.fileText, by decide +kernel, by decide +kernel⟩

/-- A settings file whose extension is none of a format. -/
def Example.withConf : FileSystem :=
  withOnly "preview.conf" (Bytes.ofString "[server]\nport = 9000\n")

/-- The content of a settings file in which a letter is written as a single byte. -/
def Example.latinContent : Bytes :=
  Bytes.ofString "[server]\nhost = \"" ++ 0xE9 :: Bytes.ofString "\"\n"

/-- A settings file that is no UTF-8. -/
def Example.withLatin : FileSystem := withOnly "preview.toml" latinContent

/-- Two settings files that are there and are not heeded: the port of the first one and the host
of the second one are ignored, and what holds when nothing is said is taken instead. -/
theorem not_heeds_conf :
    (File.isFile Example.withConf (File.place Example.withConf "preview.conf") ∧
        load Example.withConf "preview.conf" [] {} = .ok standard ∧
          ¬ Heeds Example.withConf "preview.conf") ∧
      File.isFile Example.withLatin (File.place Example.withLatin "preview.toml") ∧
        load Example.withLatin "preview.toml" [] {} = .ok standard ∧
          ¬ Heeds Example.withLatin "preview.toml" := by
  have unknown : File.format? (File.place Example.withConf "preview.conf") = none := by
    decide +kernel
  have content : Example.withLatin.read (File.place Example.withLatin "preview.toml") =
      .ok Example.latinContent := by
    decide +kernel
  have noUtf8 : Utf8.decode? Example.latinContent = none := by decide +kernel
  have confIgnored : load Example.withConf "preview.conf" [] {} = .ok standard := by
    decide +kernel
  have latinIgnored : load Example.withLatin "preview.toml" [] {} = .ok standard := by
    decide +kernel
  refine ⟨⟨by decide +kernel, confIgnored, fun heeds => ?_⟩, by decide +kernel, latinIgnored,
    fun heeds => ?_⟩
  · obtain ⟨known⟩ := heeds _ _ _ confIgnored
    rw [unknown] at known
    cases known
  · obtain ⟨-, read⟩ := heeds _ _ _ latinIgnored
    have same := Except.ok.inj (content.symm.trans read)
    rw [same, Utf8.decode?_encode] at noUtf8
    cases noUtf8

end StaticPreview.Settings
