/-
# StaticPreview.Settings.Key -- where in the settings a value goes

A key is a name, then names after dots and places in square brackets.  Names are
ASCII letters, digits, blanks, underscores and dashes; a key that is not written
like this is a single name as it stands.  Letter case does not matter.

* `Key.read`: the key of a text;
* `Value.set`: a value put where a key says.  Tables are merged key by key, all
  else replaces what was there, and what is in the way of a key gives way to it.
-/
import StaticPreview.Number.Integer64
import StaticPreview.Settings.Value
import StaticPreview.Text.Lowercase
import StaticPreview.Text.Reader

namespace StaticPreview.Settings

open StaticPreview.Number StaticPreview.Text

/-- What follows the first name of a key. -/
inductive Key.Part where
  | name (name : String)
  /-- A place in a sequence, from the front, or from the back when it is negative. -/
  | place (index : Int)
  deriving DecidableEq, Repr

/-- Where in the settings a value goes. -/
structure Key where
  head : String
  parts : List Key.Part := []
  deriving DecidableEq, Repr

namespace Key

/-- Whether a character may stand in a name. -/
def isNameChar (c : Char) : Bool :=
  c.isAlphanum || c == ' ' || c == '_' || c == '-'

/-- A name. -/
def name : Reader String := String.ofList <$> Reader.run1 isNameChar

/-- Whether a character may stand around a place. -/
def isGap (c : Char) : Bool := c == ' ' || c == '\t'

/-- A place in a sequence. -/
def place : Reader Int := do
  let _ ← Reader.run isGap
  let sign ← Reader.optional (Reader.char '-')
  let digits ← Reader.run1 Decimal.isDigit
  let _ ← Reader.run isGap
  let n := Decimal.value digits
  match Integer64.ofSize? sign.isSome n with
  | some n => pure n
  | none => Reader.refuse

/-- A name after a dot, or a place in brackets. -/
def part : Reader Part :=
  (do
    Reader.char '.'
    Part.name <$> name) <|>
  (do
    Reader.char '['
    let index ← place
    Reader.char ']'
    pure (.place index))

/-- The key of a text. -/
def read (s : String) : Key :=
  let whole : Reader Key := do
    let head ← name
    let parts ← Reader.many part
    pure { head, parts }
  (Reader.all? whole s.toList).getD { head := s }

end Key

namespace Value

mutual

/-- A table with a value under a name.  The keys of a table are put one by one under
the same keys of the table that is there. -/
def merge (root : Value) (name : String) : Value → Value
  | .table _ fields => root.put (toLower name) fun old => mergeFields (old.getD empty) fields
  | value => root.put (toLower name) fun _ => value

/-- A table with the values of some fields put under their keys. -/
def mergeFields (root : Value) : List (String × Value) → Value
  | [] => root
  | (key, value) :: rest => mergeFields (merge root key value) rest

end

/-- The items of a sequence; no other value has any. -/
def items : Value → List Value
  | .sequence _ items => items
  | _ => []

/-- The place from the front that an index stands for. -/
def placeOf (index : Int) (length : Nat) : Nat :=
  if 0 ≤ index then index.toNat else length - index.natAbs

/-- A sequence with one of its items changed; a sequence that is too short is filled
up, and what is no sequence becomes one. -/
def putItem (v : Value) (index : Int) (f : Value → Value) : Value :=
  let origin :=
    match v with
    | .sequence origin _ => origin
    | _ => none
  let items := v.items
  let at_ := placeOf index items.length
  let filled := items ++ List.replicate (at_ + 1 - items.length) nothing
  .sequence origin (filled.modify at_ f)

/-- A value with another one put where the rest of a key says. -/
def setParts (value : Value) : List Key.Part → Value → Value
  | [], _ => value
  | [.name name], v => merge v name value
  | .name name :: rest, v =>
      v.put (toLower name) fun old => setParts value rest (old.getD nothing)
  | .place index :: rest, v => v.putItem index (setParts value rest)

/-- The settings with a value put where a key says. -/
def set (root : Value) (key : Key) (value : Value) : Value :=
  setParts value (.name key.head :: key.parts) root

end Value

end StaticPreview.Settings
