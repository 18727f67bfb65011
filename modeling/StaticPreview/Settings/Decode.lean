/-
# StaticPreview.Settings.Decode -- settings made of merged values

A setting takes more than its own type: a number or a boolean is taken as a text,
a text or a number as a boolean, and a boolean, a text or a fraction as a number.
What cannot be taken is a fault, which names what was found, what was expected and
where (`Settings.decode`).

A section is a table with a value for each setting, or a sequence that gives them in
order; settings that a section leaves out have their defaults, except those without
which the section makes no sense.
-/
import StaticPreview.Settings
import StaticPreview.Settings.Value
import StaticPreview.Text.Lowercase
import StaticPreview.Number.Binary64.Reader
import StaticPreview.Number.Integer64

namespace StaticPreview.Settings

open StaticPreview.Number StaticPreview.Text

namespace Value

/-- What a value is, for a fault. -/
def found : Value → Found
  | .scalar _ .nothing => .nothing
  | .scalar _ (.boolean b) => .boolean b
  | .scalar _ (.integer n) => .integer n
  | .scalar _ (.floating x) => .floating x
  | .scalar _ (.text s) => .text s
  | .sequence .. => .sequence
  | .table .. => .map

/-- The fault of a value that is not what was expected. -/
def mismatch (v : Value) (expected : String) : Fault :=
  .wrongType v.origin v.found expected none

/-- The fault of a value whose whole shape is not what was expected. -/
def misshapen (v : Value) (expected : String) : Fault :=
  let shown :=
    match v with
    | .scalar _ (.integer n) => "integer \x60" ++ String.ofList (Decimal.signed n) ++ "\x60"
    | .scalar _ (.floating x) => "floating point \x60" ++ String.ofList x.pointedText ++ "\x60"
    | v => v.found.message
  .other ("invalid type: " ++ shown ++ ", expected " ++ expected)

/-- The texts that are taken as true and as false, in lower case. -/
def trueWords : List String := ["true", "on", "yes"]

@[inherit_doc trueWords]
def falseWords : List String := ["false", "off", "no"]

/-- A value taken as a boolean. -/
def toBoolean (v : Value) : Except Fault Bool :=
  match v with
  | .scalar _ (.boolean b) => .ok b
  | .scalar _ (.integer n) => .ok (n != 0)
  | .scalar _ (.floating x) => .ok (!x.isZero)
  | .scalar origin (.text s) =>
      let word := toLower s
      if word = "1" ∨ word ∈ trueWords then .ok true
      else if word = "0" ∨ word ∈ falseWords then .ok false
      else .error (.wrongType origin (.text word) "a boolean" none)
  | v => .error (v.mismatch "a boolean")

/-- The number without a sign that a text stands for. -/
def readUnsigned? (s : List Char) : Option Nat :=
  let digits :=
    match s with
    | '+' :: r => r
    | s => s
  let n := Decimal.value digits
  if digits = [] ∨ !digits.all Decimal.isDigit ∨ Integer64.maxUnsigned < n then none else some n

/-- A value taken as a number of 64 bits without a sign. -/
def toUnsigned (v : Value) : Except Fault Nat :=
  match v with
  | .scalar _ (.boolean b) => .ok b.toNat
  | .scalar _ (.integer n) =>
      if 0 ≤ n then .ok n.toNat
      else .error (v.mismatch "an unsigned 64 bit or less integer")
  | .scalar _ (.floating x) => .ok (x.clamped 0 Integer64.maxUnsigned).toNat
  | .scalar _ (.text s) =>
      if toLower s ∈ trueWords then .ok 1
      else if toLower s ∈ falseWords then .ok 0
      else
        match readUnsigned? s.toList with
        | some n => .ok n
        | none => .error (v.mismatch "an integer")
  | v => .error (v.mismatch "an integer")

/-- A value taken as a port. -/
def toPort (v : Value) : Except Fault UInt16 := do
  let n ← v.toUnsigned
  if n < UInt16.size then .ok (UInt16.ofNat n)
  else .error (.wrongType none (.unsigned n) "an unsigned 16 bit integer" none)

/-- A value taken as a text. -/
def toText (v : Value) : Except Fault String :=
  match v with
  | .scalar _ (.text s) => .ok s
  | .scalar _ (.boolean b) => .ok (if b then "true" else "false")
  | .scalar _ (.integer n) => .ok (String.ofList (Decimal.signed n))
  | .scalar _ (.floating x) => .ok (String.ofList x.text)
  | v => .error (v.mismatch "a string")

/-- A value taken as a text, or nothing. -/
def toTextOption (v : Value) : Except Fault (Option String) :=
  match v with
  | .scalar _ .nothing => .ok none
  | v => v.toText.map some

/-- Items taken as texts, of which the first has a place. -/
def textsFrom : Nat → List Value → Except Fault (List String)
  | _, [] => .ok []
  | place, v :: vs => do
      let s ← v.toText.mapError (Fault.at place)
      let rest ← textsFrom (place + 1) vs
      .ok (s :: rest)

/-- A value taken as a list of texts. -/
def toTexts (v : Value) : Except Fault (List String) :=
  match v with
  | .sequence _ items => textsFrom 0 items
  | v => .error (v.misshapen "a sequence")

end Value

/-! ## Sections -/

/-- A section of the settings: what it is called in faults, and its settings in order. -/
structure Section where
  label : String
  settings : List String

namespace Section

/-- The four sections. -/
def server : Section := ⟨"struct ServerConfig", ["host", "port", "root"]⟩

@[inherit_doc server]
def logging : Section :=
  ⟨"struct LoggingConfig",
    ["access_log", "access_log_format", "access_log_file", "error_log_file"]⟩

@[inherit_doc server]
def preview : Section :=
  ⟨"struct PreviewConfig", ["probe_paths", "index_files", "directory_listing"]⟩

@[inherit_doc server]
def performance : Section := ⟨"struct PerformanceConfig", ["request_timeout"]⟩

/-- How many settings a section has, in words. -/
def sizeText (s : Section) : String :=
  let n := s.settings.length
  String.ofList (Decimal.digits n) ++ (if n = 1 then " element" else " elements")

/-- What a value gives for a setting of a section, taken as `take` says; a setting that
is not given is `default`, or a fault when it has none. -/
def setting {α : Type} (s : Section) (v : Value) (name : String) (default : Option α)
    (take : Value → Except Fault α) : Except Fault α :=
  let missing (fault : String) : Except Fault α :=
    match default with
    | some a => .ok a
    | none => .error (.other fault)
  match v with
  | .table _ fields =>
      match fields.lookup name with
      | some value => (take value).mapError (Fault.under name)
      | none => missing ("missing field \x60" ++ name ++ "\x60")
  | .sequence _ items =>
      let place := s.settings.idxOf name
      match items[place]? with
      | some value => (take value).mapError (Fault.at place)
      | none =>
          missing ("invalid length " ++ String.ofList (Decimal.digits place) ++ ", expected " ++
            s.label ++ " with " ++ s.sizeText)
  | v => .error (v.misshapen s.label)

end Section

/-- The settings of the section `server`. -/
def Server.decode (v : Value) : Except Fault Server := do
  let s := Section.server
  let host ← s.setting v "host" none Value.toText
  let port ← s.setting v "port" none Value.toPort
  let root ← s.setting v "root" none Value.toText
  .ok { host, port, root }

/-- The settings of the section `logging`. -/
def Logging.decode (v : Value) : Except Fault Logging := do
  let s := Section.logging
  let accessLog ← s.setting v "access_log" none Value.toBoolean
  let accessLogFormat ←
    s.setting v "access_log_format" (some ({} : Logging).accessLogFormat) Value.toText
  let accessLogFile ← s.setting v "access_log_file" (some none) Value.toTextOption
  let errorLogFile ← s.setting v "error_log_file" (some none) Value.toTextOption
  .ok { accessLog, accessLogFormat, accessLogFile, errorLogFile }

/-- The settings of the section `preview`. -/
def Preview.decode (v : Value) : Except Fault Preview := do
  let s := Section.preview
  let d : Preview := {}
  let probePaths ← s.setting v "probe_paths" (some d.probePaths) Value.toTexts
  let indexFiles ← s.setting v "index_files" (some d.indexFiles) Value.toTexts
  let directoryListing ←
    s.setting v "directory_listing" (some d.directoryListing) Value.toBoolean
  .ok { probePaths, indexFiles, directoryListing }

/-- The settings of the section `performance`. -/
def Performance.decode (v : Value) : Except Fault Performance := do
  let requestTimeout ←
    Section.performance.setting v "request_timeout" none fun v => v.toUnsigned.map UInt64.ofNat
  .ok { requestTimeout }

/-- The settings that merged values stand for. -/
def decode (v : Value) : Except Fault Settings := do
  let part {α : Type} (name : String) (take : Value → Except Fault α) : Except Fault α :=
    match v.get? name with
    | some value => (take value).mapError (Fault.under name)
    | none => .error (.other ("missing field \x60" ++ name ++ "\x60"))
  let server ← part "server" Server.decode
  let logging ← part "logging" Logging.decode
  let preview ← part "preview" Preview.decode
  let performance ← part "performance" Performance.decode
  .ok { server, logging, preview, performance }

end StaticPreview.Settings
