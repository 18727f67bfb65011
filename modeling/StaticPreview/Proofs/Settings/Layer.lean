/-
# StaticPreview.Proofs.Settings.Layer -- what one source sets

Every setting has a key of two names, that of its section and its own, and a kind, which
says what can be its value (`Setting`).  A layer gives values to some settings; laid over
another one it wins setting by setting (`Layer.above`).  What a layer leaves out is as it is
when nothing was set (`Layer.settings`).

A value of the tree that sources are merged into stands for a value of a kind when it
is of the type of the kind, wherever it comes from (`Kind.Holds`).  Such a value is taken
for what it stands for (`toText_of_holds` and the others), and is never a table
(`isLeaf_of_holds`).
-/
import Mathlib.Data.List.Forall2
import StaticPreview.Proofs.Outcome
import StaticPreview.Settings.Load

namespace StaticPreview.Settings

/-- What can be the value of a setting. -/
inductive Kind where
  | text
  | port
  | boolean
  | texts
  | seconds
  deriving DecidableEq, Repr

/-- The values of a kind. -/
abbrev Kind.Datum : Kind → Type
  | .text => String
  | .port => UInt16
  | .boolean => Bool
  | .texts => List String
  | .seconds => UInt64

/-- The settings. -/
inductive Setting where
  | host
  | port
  | root
  | accessLog
  | accessLogFormat
  | accessLogFile
  | errorLogFile
  | probePaths
  | indexFiles
  | directoryListing
  | requestTimeout
  deriving DecidableEq, Repr

namespace Setting

/-- What a setting can be. -/
abbrev kind : Setting → Kind
  | host | root | accessLogFormat | accessLogFile | errorLogFile => .text
  | port => .port
  | accessLog | directoryListing => .boolean
  | probePaths | indexFiles => .texts
  | requestTimeout => .seconds

/-- The name of the section of a setting. -/
def area : Setting → String
  | host | port | root => "server"
  | accessLog | accessLogFormat | accessLogFile | errorLogFile => "logging"
  | probePaths | indexFiles | directoryListing => "preview"
  | requestTimeout => "performance"

/-- The name of a setting in its section. -/
def name : Setting → String
  | host => "host"
  | port => "port"
  | root => "root"
  | accessLog => "access_log"
  | accessLogFormat => "access_log_format"
  | accessLogFile => "access_log_file"
  | errorLogFile => "error_log_file"
  | probePaths => "probe_paths"
  | indexFiles => "index_files"
  | directoryListing => "directory_listing"
  | requestTimeout => "request_timeout"

/-- The key of a setting. -/
def key (k : Setting) : String := k.area ++ "." ++ k.name

theorem name_injective {k k' : Setting} (same : k.name = k'.name) : k = k' := by
  cases k <;> cases k' <;> first | rfl | simp [name] at same

theorem read_key (k : Setting) :
    Key.read k.key = { head := k.area, parts := [.name k.name] } := by
  cases k <;> decide +kernel

theorem read_area (k : Setting) : Key.read k.area = { head := k.area } := by
  cases k <;> decide +kernel

theorem toLower_area (k : Setting) : Text.toLower k.area = k.area := by
  cases k <;> decide +kernel

theorem toLower_name (k : Setting) : Text.toLower k.name = k.name := by
  cases k <;> decide +kernel

/-- A key says which setting it is of. -/
theorem key_injective {k k' : Setting} (same : k.key = k'.key) : k = k' := by
  have read := congrArg Key.read same
  rw [read_key, read_key] at read
  simp only [Key.mk.injEq, List.cons.injEq, Key.Part.name.injEq, and_true] at read
  exact name_injective read.2

end Setting

/-! ## Layers -/

/-- Values for some settings. -/
abbrev Layer := (k : Setting) → Option k.kind.Datum

namespace Layer

/-- Two layers, of which the first wins. -/
def above (strong weak : Layer) : Layer := fun k => (strong k).or (weak k)

theorem above_assoc (a b c : Layer) : (a.above b).above c = a.above (b.above c) := by
  funext k
  exact Option.or_assoc

/-- Every setting as the layer says, or else as it is when nothing was set. -/
def settings (l : Layer) : Settings where
  server :=
    { host := (l .host).getD standard.server.host
      port := (l .port).getD standard.server.port
      root := (l .root).getD standard.server.root }
  logging :=
    { accessLog := (l .accessLog).getD standard.logging.accessLog
      accessLogFormat := (l .accessLogFormat).getD standard.logging.accessLogFormat
      accessLogFile := (l .accessLogFile).or standard.logging.accessLogFile
      errorLogFile := (l .errorLogFile).or standard.logging.errorLogFile }
  preview :=
    { probePaths := (l .probePaths).getD standard.preview.probePaths
      indexFiles := (l .indexFiles).getD standard.preview.indexFiles
      directoryListing := (l .directoryListing).getD standard.preview.directoryListing }
  performance :=
    { requestTimeout := (l .requestTimeout).getD standard.performance.requestTimeout }

/-- The settings of a server for which nothing was set; the log files have none. -/
def standard : Layer
  | .host => some Settings.standard.server.host
  | .port => some Settings.standard.server.port
  | .root => some Settings.standard.server.root
  | .accessLog => some Settings.standard.logging.accessLog
  | .accessLogFormat => some Settings.standard.logging.accessLogFormat
  | .accessLogFile => Settings.standard.logging.accessLogFile
  | .errorLogFile => Settings.standard.logging.errorLogFile
  | .probePaths => some Settings.standard.preview.probePaths
  | .indexFiles => some Settings.standard.preview.indexFiles
  | .directoryListing => some Settings.standard.preview.directoryListing
  | .requestTimeout => some Settings.standard.performance.requestTimeout

/-- Where something holds when nothing is set, a layer leaves nothing out. -/
theorem above_standard_eq_some (l : Layer) {k : Setting} {d : k.kind.Datum}
    (unset : standard k = some d) : (l.above standard) k = some ((l k).getD d) := by
  rw [above, unset]
  cases l k <;> rfl

end Layer

/-- What is asked for at the start of the program, as a layer. -/
def Overrides.layer (o : Overrides) : Layer
  | .host => o.host
  | .port => o.port
  | .root => o.root
  | _ => none

/-! ## Values that stand for others -/

/-- Whether a value stands for a text. -/
def Value.IsText (v : Value) (s : String) : Prop := ∃ origin, v = .scalar origin (.text s)

/-- Whether a value of a source stands for a value of a kind. -/
def Kind.Holds : (kind : Kind) → Value → kind.Datum → Prop
  | .text, v, s => v.IsText s
  | .port, v, n => ∃ origin, v = .scalar origin (.integer n.toNat)
  | .boolean, v, b => ∃ origin, v = .scalar origin (.boolean b)
  | .texts, v, ss => ∃ origin items, v = .sequence origin items ∧ List.Forall₂ Value.IsText items ss
  | .seconds, v, n => ∃ origin, v = .scalar origin (.integer n.toNat)

variable {v : Value}

theorem toText_of_holds {s : String} (holds : Kind.text.Holds v s) : v.toText = .ok s := by
  obtain ⟨origin, rfl⟩ := holds
  rfl

theorem toTextOption_of_holds {s : String} (holds : Kind.text.Holds v s) :
    v.toTextOption = .ok (some s) := by
  obtain ⟨origin, rfl⟩ := holds
  rfl

theorem toBoolean_of_holds {b : Bool} (holds : Kind.boolean.Holds v b) : v.toBoolean = .ok b := by
  obtain ⟨origin, rfl⟩ := holds
  rfl

theorem toUnsigned_of_natCast {origin : Option String} (n : Nat) :
    (Value.scalar origin (.integer n)).toUnsigned = .ok n := by
  simp [Value.toUnsigned]

theorem toPort_of_holds {n : UInt16} (holds : Kind.port.Holds v n) : v.toPort = .ok n := by
  obtain ⟨origin, rfl⟩ := holds
  rw [Value.toPort, bind_of_eq_ok (toUnsigned_of_natCast _), if_pos n.toNat_lt, UInt16.ofNat_toNat]

theorem toSeconds_of_holds {n : UInt64} (holds : Kind.seconds.Holds v n) :
    v.toUnsigned.map UInt64.ofNat = .ok n := by
  obtain ⟨origin, rfl⟩ := holds
  rw [toUnsigned_of_natCast]
  simp [Except.map]

theorem textsFrom_of_forall₂ {items : List Value} {ss : List String}
    (all : List.Forall₂ Value.IsText items ss) (place : Nat) :
    Value.textsFrom place items = .ok ss := by
  induction all generalizing place with
  | nil => rfl
  | cons holds rest ih =>
      obtain ⟨origin, rfl⟩ := holds
      rw [Value.textsFrom]
      refine (bind_of_eq_ok rfl).trans ?_
      rw [bind_of_eq_ok (ih (place + 1))]

theorem toTexts_of_holds {ss : List String} (holds : Kind.texts.Holds v ss) :
    v.toTexts = .ok ss := by
  obtain ⟨origin, items, rfl, all⟩ := holds
  exact textsFrom_of_forall₂ all 0

/-- Whether a value is no table. -/
def Value.IsLeaf (v : Value) : Prop := ∀ origin fields, v ≠ .table origin fields

theorem merge_of_isLeaf (leaf : v.IsLeaf) (root : Value) (name : String) :
    root.merge name v = root.put (Text.toLower name) fun _ => v := by
  rw [Value.merge]
  exact leaf

/-- A value that stands for another one is no table. -/
theorem isLeaf_of_holds {kind : Kind} {x : kind.Datum} (holds : kind.Holds v x) : v.IsLeaf := by
  intro origin fields
  cases kind with
  | texts =>
      obtain ⟨before, items, rfl, -⟩ := holds
      simp
  | text | port | boolean | seconds =>
      obtain ⟨before, rfl⟩ := holds
      simp

theorem isText_itemsWithOrigin {items : List Value} {ss : List String} (origin : String)
    (all : List.Forall₂ Value.IsText items ss) :
    List.Forall₂ Value.IsText (Value.itemsWithOrigin origin items) ss := by
  induction all with
  | nil => exact .nil
  | cons holds rest ih =>
      obtain ⟨before, rfl⟩ := holds
      rw [Value.itemsWithOrigin]
      exact .cons ⟨_, rfl⟩ ih

/-- A value stands for the same wherever it comes from. -/
theorem holds_withOrigin {kind : Kind} {x : kind.Datum} (origin : String)
    (holds : kind.Holds v x) : kind.Holds (v.withOrigin origin) x := by
  cases kind with
  | texts =>
      obtain ⟨before, items, rfl, all⟩ := holds
      exact ⟨some origin, _, rfl, isText_itemsWithOrigin origin all⟩
  | text | port | boolean | seconds =>
      obtain ⟨before, rfl⟩ := holds
      exact ⟨some origin, rfl⟩

end StaticPreview.Settings
