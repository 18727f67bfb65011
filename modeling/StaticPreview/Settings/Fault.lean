/-
# StaticPreview.Settings.Fault -- why settings cannot be used

A setting can have a value of the wrong type, be missing, or stand in a file that
cannot be read as what it claims to be.  A value of the wrong type is reported
with the key it was found under and, when it is known, with where it came from;
the key grows from the inside out (`Fault.under`, `Fault.at`).
-/
import StaticPreview.Number.Binary64
import StaticPreview.Text.Quoted

namespace StaticPreview.Settings

open StaticPreview.Text

/-- What was found where something else was expected. -/
inductive Found where
  | boolean (b : Bool)
  | integer (n : Int)
  | unsigned (n : Nat)
  | floating (x : Number.Binary64)
  | text (s : String)
  | nothing
  | sequence
  | map
  deriving DecidableEq, Repr

/-- The text of what was found. -/
def Found.message : Found → String
  | .boolean b => "boolean \x60" ++ (if b then "true" else "false") ++ "\x60"
  | .integer n => "64-bit integer \x60" ++ String.ofList (Decimal.signed n) ++ "\x60"
  | .unsigned n => "64-bit unsigned integer \x60" ++ String.ofList (Decimal.digits n) ++ "\x60"
  | .floating x => "floating point \x60" ++ String.ofList x.text ++ "\x60"
  | .text s => "string " ++ quoted s
  | .nothing => "unit value"
  | .sequence => "sequence"
  | .map => "map"

/-- Why settings cannot be used. -/
inductive Fault where
  /-- A value has the wrong type. -/
  | wrongType (origin : Option String) (found : Found) (expected : String) (key : Option String)
  /-- The file is not what it claims to be. -/
  | malformedFile (file : String)
  /-- There is no such setting. -/
  | notFound (key : String)
  /-- Anything else, in words. -/
  | other (message : String)
  deriving DecidableEq, Repr

namespace Fault

/-- The text of a fault. -/
def message : Fault → String
  | .wrongType origin found expected key =>
      "invalid type: " ++ found.message ++ ", expected " ++ expected ++
        (match key with
          | some k => " for key \x60" ++ k ++ "\x60"
          | none => "") ++
        (match origin with
          | some o => " in " ++ o
          | none => "")
  | .malformedFile file => "malformed file " ++ file
  | .notFound key => "configuration property " ++ quoted key ++ " not found"
  | .other message => message

/-- Whether a key goes on with a place in a sequence, or not at all. -/
def startsBare (key : String) : Bool :=
  match key.toList with
  | [] => true
  | c :: _ => c == '['

/-- The fault as seen from the map in which the value has a name. -/
def under (name : String) : Fault → Fault
  | .wrongType origin found expected key =>
      let inner := key.getD ""
      .wrongType origin found expected
        (some (name ++ (if startsBare inner then "" else ".") ++ inner))
  | .notFound key => .notFound (name ++ (if startsBare key then "" else ".") ++ key)
  | fault => fault

/-- The fault as seen from the sequence in which the value has a place. -/
def «at» (place : Nat) : Fault → Fault
  | .wrongType origin found expected key =>
      .wrongType origin found expected
        (some ("[" ++ String.ofList (Decimal.digits place) ++ "]" ++ key.getD ""))
  | .notFound key => .notFound ("[" ++ String.ofList (Decimal.digits place) ++ "]" ++ key)
  | fault => fault

end Fault

end StaticPreview.Settings
