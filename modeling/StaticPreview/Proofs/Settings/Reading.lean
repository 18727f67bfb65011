/-
# StaticPreview.Proofs.Settings.Reading -- settings are read one by one

Each setting is read from its section alone: under its name or at its place, with a default
of its own and a way of its own to take a value (`Setting.read`).  A tree is taken for
settings exactly when it gives every one of them (`decode_eq_ok_iff`), so whoever knows
what the tree holds for a setting knows what becomes of it, whatever else is in the tree
(`gives_iff_of_leaf?`).

Where a value comes from plays no part in what it is taken for (`take_withOrigin_iff`).
-/
import StaticPreview.Proofs.Settings.Merge

namespace StaticPreview.Settings

/-! ## What settings say -/

/-- What settings say, setting by setting; a log file that is none is not set. -/
def layer (s : Settings) : Layer
  | .host => some s.server.host
  | .port => some s.server.port
  | .root => some s.server.root
  | .accessLog => some s.logging.accessLog
  | .accessLogFormat => some s.logging.accessLogFormat
  | .accessLogFile => s.logging.accessLogFile
  | .errorLogFile => s.logging.errorLogFile
  | .probePaths => some s.preview.probePaths
  | .indexFiles => some s.preview.indexFiles
  | .directoryListing => some s.preview.directoryListing
  | .requestTimeout => some s.performance.requestTimeout

/-! ## Taking a value -/

/-- A value taken as one of a kind. -/
def Kind.take : (kind : Kind) → Value → Except Fault kind.Datum
  | .text => Value.toText
  | .port => Value.toPort
  | .boolean => Value.toBoolean
  | .texts => Value.toTexts
  | .seconds => fun v => v.toUnsigned.map UInt64.ofNat

namespace Setting

/-- A value taken for a setting.  A log file can also be given as none. -/
def take (k : Setting) (v : Value) : Except Fault (Option k.kind.Datum) :=
  match k with
  | accessLogFile | errorLogFile => v.toTextOption
  | k => (k.kind.take v).map some

/-- The section of a setting. -/
def home : Setting → Section
  | host | port | root => .server
  | accessLog | accessLogFormat | accessLogFile | errorLogFile => .logging
  | probePaths | indexFiles | directoryListing => .preview
  | requestTimeout => .performance

/-- What a setting is that its section leaves out, if it may be left out. -/
def default? : (k : Setting) → Option (Option k.kind.Datum)
  | accessLogFormat => some (some ({} : Logging).accessLogFormat)
  | accessLogFile | errorLogFile => some none
  | probePaths => some (some ({} : Preview).probePaths)
  | indexFiles => some (some ({} : Preview).indexFiles)
  | directoryListing => some (some ({} : Preview).directoryListing)
  | _ => none

/-- What a section gives for a setting. -/
def read (k : Setting) (section_ : Value) : Except Fault (Option k.kind.Datum) :=
  k.home.setting section_ k.name k.default? k.take

end Setting

/-- What is made of a setting can be made of its value and of its default. -/
theorem setting_map {α β : Type} (s : Section) (v : Value) (name : String) (default : Option α)
    (take : Value → Except Fault α) (f : α → β) :
    s.setting v name (default.map f) (fun v => (take v).map f) =
      (s.setting v name default take).map f := by
  have under (x : Except Fault α) (g : Fault → Fault) :
      (x.map f).mapError g = (x.mapError g).map f := by
    cases x <;> rfl
  unfold Section.setting
  cases v with
  | scalar => rfl
  | table origin fields =>
      dsimp only
      cases fields.lookup name with
      | some value => exact under _ _
      | none => cases default <;> rfl
  | sequence origin items =>
      dsimp only
      cases items[s.settings.idxOf name]? with
      | some value => exact under _ _
      | none => cases default <;> rfl

/-- A setting that cannot be none is read as its value. -/
theorem setting_eq_ok_some_iff {α : Type} {s : Section} {v : Value} {name : String}
    {default : Option α} {take : Value → Except Fault α} {a : α} :
    s.setting v name (default.map some) (fun v => (take v).map some) = .ok (some a) ↔
      s.setting v name default take = .ok a := by
  rw [setting_map, map_eq_ok_iff]
  simp

theorem toTextOption_eq_ok_some_iff {v : Value} {s : String} :
    v.toTextOption = .ok (some s) ↔ v.toText = .ok s := by
  have text : v.toText.map some = .ok (some s) ↔ v.toText = .ok s := by
    simp [map_eq_ok_iff]
  cases v with
  | scalar origin x =>
      cases x with
      | nothing => simp [Value.toTextOption, Value.toText]
      | _ => exact text
  | sequence | table => exact text

/-- A setting that is something is taken as a value of its kind. -/
theorem take_eq_ok_some_iff {k : Setting} {v : Value} {y : k.kind.Datum} :
    k.take v = .ok (some y) ↔ k.kind.take v = .ok y := by
  have plain (kind : Kind) (y : kind.Datum) :
      (kind.take v).map some = .ok (some y) ↔ kind.take v = .ok y := by
    simp [map_eq_ok_iff]
  cases k with
  | accessLogFile | errorLogFile => exact toTextOption_eq_ok_some_iff
  | _ => exact plain _ y

/-! ## Sections -/

theorem decode_server_iff {v : Value} {x : Server} :
    Server.decode v = .ok x ↔ Setting.host.read v = .ok (some x.host) ∧
      Setting.port.read v = .ok (some x.port) ∧ Setting.root.read v = .ok (some x.root) := by
  simp only [Server.decode, bind_eq_ok_iff, Except.ok.injEq]
  constructor
  · rintro ⟨host, isHost, port, isPort, root, isRoot, rfl⟩
    exact ⟨setting_eq_ok_some_iff.2 isHost, setting_eq_ok_some_iff.2 isPort,
      setting_eq_ok_some_iff.2 isRoot⟩
  · rintro ⟨isHost, isPort, isRoot⟩
    exact ⟨_, setting_eq_ok_some_iff.1 isHost, _, setting_eq_ok_some_iff.1 isPort, _,
      setting_eq_ok_some_iff.1 isRoot, rfl⟩

theorem decode_logging_iff {v : Value} {x : Logging} :
    Logging.decode v = .ok x ↔ Setting.accessLog.read v = .ok (some x.accessLog) ∧
      Setting.accessLogFormat.read v = .ok (some x.accessLogFormat) ∧
      Setting.accessLogFile.read v = .ok x.accessLogFile ∧
      Setting.errorLogFile.read v = .ok x.errorLogFile := by
  simp only [Logging.decode, bind_eq_ok_iff, Except.ok.injEq]
  constructor
  · rintro ⟨accessLog, isAccessLog, format, isFormat, file, isFile, errors, isErrors, rfl⟩
    exact ⟨setting_eq_ok_some_iff.2 isAccessLog, setting_eq_ok_some_iff.2 isFormat, isFile,
      isErrors⟩
  · rintro ⟨isAccessLog, isFormat, isFile, isErrors⟩
    exact ⟨_, setting_eq_ok_some_iff.1 isAccessLog, _, setting_eq_ok_some_iff.1 isFormat, _,
      isFile, _, isErrors, rfl⟩

theorem decode_preview_iff {v : Value} {x : Preview} :
    Preview.decode v = .ok x ↔ Setting.probePaths.read v = .ok (some x.probePaths) ∧
      Setting.indexFiles.read v = .ok (some x.indexFiles) ∧
      Setting.directoryListing.read v = .ok (some x.directoryListing) := by
  simp only [Preview.decode, bind_eq_ok_iff, Except.ok.injEq]
  constructor
  · rintro ⟨probes, isProbes, index, isIndex, listing, isListing, rfl⟩
    exact ⟨setting_eq_ok_some_iff.2 isProbes, setting_eq_ok_some_iff.2 isIndex,
      setting_eq_ok_some_iff.2 isListing⟩
  · rintro ⟨isProbes, isIndex, isListing⟩
    exact ⟨_, setting_eq_ok_some_iff.1 isProbes, _, setting_eq_ok_some_iff.1 isIndex, _,
      setting_eq_ok_some_iff.1 isListing, rfl⟩

theorem decode_performance_iff {v : Value} {x : Performance} :
    Performance.decode v = .ok x ↔
      Setting.requestTimeout.read v = .ok (some x.requestTimeout) := by
  simp only [Performance.decode, bind_eq_ok_iff, Except.ok.injEq]
  constructor
  · rintro ⟨timeout, isTimeout, rfl⟩
    exact setting_eq_ok_some_iff.2 isTimeout
  · intro isTimeout
    exact ⟨_, setting_eq_ok_some_iff.1 isTimeout, rfl⟩

/-! ## The whole tree -/

/-- Whether a tree has the section of a setting, and what that gives for the setting. -/
def Value.Gives (root : Value) (k : Setting) (said : Option k.kind.Datum) : Prop :=
  ∃ section_, root.get? k.area = some section_ ∧ k.read section_ = .ok said

theorem Value.Gives.read {root section_ : Value} {k : Setting} {said : Option k.kind.Datum}
    (gives : root.Gives k said) (here : root.get? k.area = some section_) :
    k.read section_ = .ok said := by
  obtain ⟨other, there, given⟩ := gives
  obtain rfl : other = section_ := Option.some.inj (there.symm.trans here)
  exact given

/-- What is made of a section of a tree. -/
def Value.part {α : Type} (root : Value) (name : String) (take : Value → Except Fault α) :
    Except Fault α :=
  match root.get? name with
  | some section_ => (take section_).mapError (Fault.under name)
  | none => .error (.other ("missing field \x60" ++ name ++ "\x60"))

theorem part_eq_ok_iff {α : Type} {root : Value} {name : String}
    {take : Value → Except Fault α} {a : α} :
    root.part name take = .ok a ↔ ∃ section_, root.get? name = some section_ ∧
      take section_ = .ok a := by
  unfold Value.part
  cases root.get? name with
  | none => simp
  | some section_ => simp [mapError_eq_ok_iff]

theorem decode_eq (root : Value) : decode root = (do
    let server ← root.part "server" Server.decode
    let logging ← root.part "logging" Logging.decode
    let preview ← root.part "preview" Preview.decode
    let performance ← root.part "performance" Performance.decode
    .ok { server, logging, preview, performance }) := rfl

/-- **A tree is taken for the settings that it gives one by one.** -/
theorem decode_eq_ok_iff {root : Value} {s : Settings} :
    decode root = .ok s ↔ ∀ k, root.Gives k (s.layer k) := by
  simp only [decode_eq, bind_eq_ok_iff, part_eq_ok_iff, Except.ok.injEq]
  constructor
  · rintro ⟨server, ⟨v, isServer, asServer⟩, logging, ⟨w, isLogging, asLogging⟩, preview,
      ⟨x, isPreview, asPreview⟩, performance, ⟨y, isPerformance, asPerformance⟩, rfl⟩ k
    obtain ⟨host, port, dir⟩ := decode_server_iff.1 asServer
    obtain ⟨accessLog, format, accessFile, errorFile⟩ := decode_logging_iff.1 asLogging
    obtain ⟨probes, index, listing⟩ := decode_preview_iff.1 asPreview
    have timeout := decode_performance_iff.1 asPerformance
    cases k with
    | host => exact ⟨v, isServer, host⟩
    | port => exact ⟨v, isServer, port⟩
    | root => exact ⟨v, isServer, dir⟩
    | accessLog => exact ⟨w, isLogging, accessLog⟩
    | accessLogFormat => exact ⟨w, isLogging, format⟩
    | accessLogFile => exact ⟨w, isLogging, accessFile⟩
    | errorLogFile => exact ⟨w, isLogging, errorFile⟩
    | probePaths => exact ⟨x, isPreview, probes⟩
    | indexFiles => exact ⟨x, isPreview, index⟩
    | directoryListing => exact ⟨x, isPreview, listing⟩
    | requestTimeout => exact ⟨y, isPerformance, timeout⟩
  · intro gives
    obtain ⟨v, isServer, host⟩ := gives .host
    obtain ⟨w, isLogging, accessLog⟩ := gives .accessLog
    obtain ⟨x, isPreview, probes⟩ := gives .probePaths
    obtain ⟨y, isPerformance, timeout⟩ := gives .requestTimeout
    refine ⟨s.server, ⟨v, isServer, decode_server_iff.2 ⟨host, ?_, ?_⟩⟩,
      s.logging, ⟨w, isLogging, decode_logging_iff.2 ⟨accessLog, ?_, ?_, ?_⟩⟩,
      s.preview, ⟨x, isPreview, decode_preview_iff.2 ⟨probes, ?_, ?_⟩⟩,
      s.performance, ⟨y, isPerformance, decode_performance_iff.2 timeout⟩, rfl⟩
    · exact (gives .port).read isServer
    · exact (gives .root).read isServer
    · exact (gives .accessLogFormat).read isLogging
    · exact (gives .accessLogFile).read isLogging
    · exact (gives .errorLogFile).read isLogging
    · exact (gives .indexFiles).read isPreview
    · exact (gives .directoryListing).read isPreview

theorem default_of_eq_ok {α : Type} {default : Option α} {fault : Fault} {a : α}
    (given : (match default with
      | some d => .ok d
      | none => .error fault : Except Fault α) = .ok a) : default = some a := by
  cases default with
  | some d => exact congrArg some (Except.ok.inj given)
  | none => cases given

/-- What a section gives was taken from a value, or is the default. -/
theorem of_setting_eq_ok {α : Type} {s : Section} {v : Value} {name : String} {default : Option α}
    {take : Value → Except Fault α} {a : α} (given : s.setting v name default take = .ok a) :
    default = some a ∨ ∃ value, take value = .ok a := by
  unfold Section.setting at given
  cases v with
  | scalar => cases given
  | table origin fields =>
      dsimp only at given
      cases found : fields.lookup name with
      | some value =>
          rw [found] at given
          exact Or.inr ⟨value, mapError_eq_ok_iff.1 given⟩
      | none =>
          rw [found] at given
          exact Or.inl (default_of_eq_ok given)
  | sequence origin items =>
      dsimp only at given
      cases found : items[s.settings.idxOf name]? with
      | some value =>
          rw [found] at given
          exact Or.inr ⟨value, mapError_eq_ok_iff.1 given⟩
      | none =>
          rw [found] at given
          exact Or.inl (default_of_eq_ok given)

/-- Only log files are given as none. -/
theorem isLogFile_of_read_eq_none {k : Setting} {section_ : Value}
    (read : k.read section_ = .ok none) : k = .accessLogFile ∨ k = .errorLogFile := by
  rcases of_setting_eq_ok read with default | ⟨value, taken⟩
  · cases k with
    | accessLogFile => exact Or.inl rfl
    | errorLogFile => exact Or.inr rfl
    | _ => cases default
  · cases k with
    | accessLogFile => exact Or.inl rfl
    | errorLogFile => exact Or.inr rfl
    | _ =>
        obtain ⟨d, -, impossible⟩ := map_eq_ok_iff.1 taken
        cases impossible

theorem layer_settings {l : Layer} {root : Value} {k : Setting} (gives : root.Gives k (l k)) :
    l.settings.layer k = l k := by
  obtain ⟨section_, -, read⟩ := gives
  cases said : l k with
  | some d => cases k <;> simp [layer, Layer.settings, said]
  | none =>
      rw [said] at read
      rcases isLogFile_of_read_eq_none read with rfl | rfl <;>
        simp [layer, Layer.settings, said, standard]

/-- Settings are what they say. -/
theorem settings_layer (s : Settings) : Layer.settings s.layer = s := by
  simp [Layer.settings, layer, standard]

/-- What a tree gives is what it is taken for. -/
theorem decode_of_gives {l : Layer} {root : Value} (gives : ∀ k, root.Gives k (l k)) :
    decode root = .ok l.settings := by
  apply decode_eq_ok_iff.2
  intro k
  rw [layer_settings (gives k)]
  exact gives k

/-! ## Values in their places -/

theorem exists_table_of_get? {t v : Value} {name : String} (found : t.get? name = some v) :
    ∃ origin fields, t = .table origin fields := by
  cases t with
  | table origin fields => exact ⟨origin, fields, rfl⟩
  | scalar | sequence => simp [Value.get?, Value.fields] at found

/-- A table gives for a setting what stands under the name of the setting. -/
theorem read_of_get? {t v : Value} {k : Setting} (found : t.get? k.name = some v)
    {said : Option k.kind.Datum} : k.read t = .ok said ↔ k.take v = .ok said := by
  obtain ⟨origin, fields, rfl⟩ := exists_table_of_get? found
  have there : fields.lookup k.name = some v := found
  simp only [Setting.read, Section.setting, there]
  exact mapError_eq_ok_iff

/-- **What stands in a tree for a setting is what the setting is taken from.** -/
theorem gives_iff_of_leaf? {root v : Value} {k : Setting} (found : root.leaf? k = some v)
    {said : Option k.kind.Datum} : root.Gives k said ↔ k.take v = .ok said := by
  obtain ⟨section_, here, inside⟩ := Option.bind_eq_some_iff.1 found
  rw [← read_of_get? inside]
  exact ⟨fun gives => gives.read here, fun read => ⟨section_, here, read⟩⟩

/-! ## Origins -/

section Origins

variable (origin : String) (v : Value)

theorem toText_withOrigin_iff {s : String} :
    (v.withOrigin origin).toText = .ok s ↔ v.toText = .ok s := by
  cases v with
  | scalar before x => cases x <;> simp [Value.withOrigin, Value.toText]
  | sequence | table => simp [Value.withOrigin, Value.toText]

theorem toUnsigned_withOrigin_iff {n : Nat} :
    (v.withOrigin origin).toUnsigned = .ok n ↔ v.toUnsigned = .ok n := by
  cases v with
  | scalar before x =>
      cases x with
      | integer m => by_cases h : 0 ≤ m <;> simp [Value.withOrigin, Value.toUnsigned, h]
      | text s =>
          simp only [Value.withOrigin, Value.toUnsigned]
          cases Value.readUnsigned? s.toList <;> repeat' split
          all_goals simp
      | _ => simp [Value.withOrigin, Value.toUnsigned]
  | sequence | table => simp [Value.withOrigin, Value.toUnsigned]

theorem toBoolean_withOrigin_iff {b : Bool} :
    (v.withOrigin origin).toBoolean = .ok b ↔ v.toBoolean = .ok b := by
  cases v with
  | scalar before x =>
      cases x with
      | text s =>
          simp only [Value.withOrigin, Value.toBoolean]
          repeat' split
          all_goals simp
      | _ => simp [Value.withOrigin, Value.toBoolean]
  | sequence | table => simp [Value.withOrigin, Value.toBoolean]

theorem textsFrom_withOrigin_iff (items : List Value) (place : Nat) {ss : List String} :
    Value.textsFrom place (Value.itemsWithOrigin origin items) = .ok ss ↔
      Value.textsFrom place items = .ok ss := by
  induction items generalizing place ss with
  | nil => rfl
  | cons v items ih =>
      simp only [Value.itemsWithOrigin, Value.textsFrom, bind_eq_ok_iff, mapError_eq_ok_iff,
        toText_withOrigin_iff, ih]

theorem toTexts_withOrigin_iff {ss : List String} :
    (v.withOrigin origin).toTexts = .ok ss ↔ v.toTexts = .ok ss := by
  cases v with
  | sequence before items => exact textsFrom_withOrigin_iff origin items 0
  | scalar | table => simp [Value.withOrigin, Value.toTexts]

theorem toTextOption_withOrigin_iff {said : Option String} :
    (v.withOrigin origin).toTextOption = .ok said ↔ v.toTextOption = .ok said := by
  have text : ((v.withOrigin origin).toText.map some = .ok said) ↔
      (v.toText.map some = .ok said) := by
    simp only [map_eq_ok_iff, toText_withOrigin_iff]
  cases v with
  | scalar before x =>
      cases x with
      | nothing => rfl
      | _ => exact text
  | sequence | table => exact text

theorem Kind.take_withOrigin_iff (kind : Kind) {x : kind.Datum} :
    kind.take (v.withOrigin origin) = .ok x ↔ kind.take v = .ok x := by
  cases kind with
  | text => exact toText_withOrigin_iff origin v
  | port => simp only [Kind.take, Value.toPort, bind_eq_ok_iff, toUnsigned_withOrigin_iff]
  | boolean => exact toBoolean_withOrigin_iff origin v
  | texts => exact toTexts_withOrigin_iff origin v
  | seconds => simp only [Kind.take, map_eq_ok_iff, toUnsigned_withOrigin_iff]

/-- What a value is taken for has nothing to do with where it comes from. -/
theorem take_withOrigin_iff (k : Setting) {said : Option k.kind.Datum} :
    k.take (v.withOrigin origin) = .ok said ↔ k.take v = .ok said := by
  have plain (kind : Kind) (said : Option kind.Datum) :
      (kind.take (v.withOrigin origin)).map some = .ok said ↔
        (kind.take v).map some = .ok said := by
    simp only [map_eq_ok_iff, Kind.take_withOrigin_iff]
  cases k with
  | accessLogFile | errorLogFile => exact toTextOption_withOrigin_iff origin v
  | _ => exact plain _ said

end Origins

end StaticPreview.Settings
