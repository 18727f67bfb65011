/-
# StaticPreview.Settings.Value -- values of settings as their sources give them

What a source says of a setting need not be what the setting asks for, so it is
first kept as a value of no particular type, together with where it comes from.
Tables keep their keys in the order in which they came.
-/
import StaticPreview.Number.Binary64
import StaticPreview.Settings.Fields

namespace StaticPreview.Settings

/-- A value without parts. -/
inductive Scalar where
  | nothing
  | boolean (b : Bool)
  | integer (n : Int)
  | floating (x : Number.Binary64)
  | text (s : String)
  deriving DecidableEq, Repr

/-- A value with where it comes from, if that is known. -/
inductive Value where
  | scalar (origin : Option String) (s : Scalar)
  | sequence (origin : Option String) (items : List Value)
  | table (origin : Option String) (fields : List (String × Value))
  deriving Repr

namespace Value

/-- A value of which it is not known where it comes from. -/
def ofScalar (s : Scalar) : Value := .scalar none s

/-- A text of which it is not known where it comes from. -/
def ofText (s : String) : Value := ofScalar (.text s)

/-- The table without any keys. -/
def empty : Value := .table none []

/-- The value that stands where nothing was said. -/
def nothing : Value := ofScalar .nothing

/-- Where a value comes from. -/
def origin : Value → Option String
  | .scalar origin _ => origin
  | .sequence origin _ => origin
  | .table origin _ => origin

mutual

/-- A value, and all that is in it, with where it comes from. -/
def withOrigin (origin : String) : Value → Value
  | .scalar _ s => .scalar (some origin) s
  | .sequence _ items => .sequence (some origin) (itemsWithOrigin origin items)
  | .table _ fields => .table (some origin) (fieldsWithOrigin origin fields)

/-- Items of a sequence with where they come from. -/
def itemsWithOrigin (origin : String) : List Value → List Value
  | [] => []
  | v :: vs => v.withOrigin origin :: itemsWithOrigin origin vs

/-- Fields of a table with where they come from. -/
def fieldsWithOrigin (origin : String) : List (String × Value) → List (String × Value)
  | [] => []
  | (k, v) :: fs => (k, v.withOrigin origin) :: fieldsWithOrigin origin fs

end

/-- The fields of a table; no other value has any. -/
def fields : Value → List (String × Value)
  | .table _ fields => fields
  | _ => []

/-- A table with one of its fields changed; what is no table becomes one. -/
def put (v : Value) (key : String) (f : Option Value → Value) : Value :=
  match v with
  | .table origin fields => .table origin (Fields.put key f fields)
  | _ => .table none (Fields.put key f [])

/-- The field of a key. -/
def get? (v : Value) (key : String) : Option Value := v.fields.lookup key

end Value

end StaticPreview.Settings
