/-
# StaticPreview.Settings.Environment -- settings in environment variables

A variable sets something when its name, in lower case, starts with `preview__`;
what follows is the key, with dots for double underscores.  The text of a variable
is taken for a boolean or a number where it reads as one, and for the two settings
that are lists it is cut at its commas.
-/
import StaticPreview.Number.Integer64
import StaticPreview.Pieces
import StaticPreview.Settings.Key
import StaticPreview.Number.Binary64.Reader

namespace StaticPreview.Settings.Environment

open StaticPreview.Text

/-- What the names of the variables start with, in lower case. -/
def mark : List Char := "preview__".toList

/-- Where values of variables come from. -/
def origin : String := "the environment"

/-- The keys whose values are lists. -/
def listKeys : List String := ["preview.probe_paths", "preview.index_files"]

/-- A name with a dot for every two underscores. -/
def dotted : List Char → List Char
  | '_' :: '_' :: r => '.' :: dotted r
  | c :: r => c :: dotted r
  | [] => []

/-- The key that a variable sets, if it sets any. -/
def key? (name : String) : Option String :=
  let lower := (toLower name).toList
  if mark.isPrefixOf lower then some (String.ofList (dotted (lower.drop mark.length))) else none

/-- What the text of a variable stands for under a key. -/
def read (key text : String) : Value :=
  let lower := toLower text
  if lower = "true" then .ofScalar (.boolean true)
  else if lower = "false" then .ofScalar (.boolean false)
  else
    match Number.Integer64.read text.toList with
    | .ok n => .ofScalar (.integer n)
    | .error _ =>
        match Number.Binary64.read? text.toList with
        | some x => .ofScalar (.floating x)
        | none =>
            if key ∈ listKeys then
              .sequence none
                ((Pieces.split ',' text.toList).map fun s => .ofText (String.ofList s))
            else .ofText text

/-- The keys that variables set, with their values. -/
def collect (environment : List (String × String)) : List (String × Value) :=
  environment.filterMap fun (name, text) =>
    (key? name).map fun key => (key, (read key text).withOrigin origin)

end StaticPreview.Settings.Environment
