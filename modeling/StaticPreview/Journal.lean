/-
# StaticPreview.Journal -- what is written down while serving

There are two logs: one for requests and for the life of the server, one for
errors and warnings.  A `Notice` is an entry of the second, by its cause; its
line is `Notice.line`.
-/
import StaticPreview.Text.Quoted

namespace StaticPreview

/-- An entry of the error log. -/
inductive Notice where
  /-- Something failed. -/
  | error (message : String)
  /-- Something was refused. -/
  | warning (message : String)
  deriving DecidableEq, Repr

/-- The line of a notice, without the line end. -/
def Notice.line : Notice → String
  | .error message => "[ERROR] " ++ message
  | .warning message => "[WARN] " ++ message

/-- A connection that could not be served, with a description of why. -/
def Notice.connectionFailed (description : String) : Notice :=
  .error ("Failed to serve connection: " ++ description)

/-- The two logs, entry by entry; an entry may hold line ends of its own. -/
structure Journal where
  access : List String := []
  errors : List String := []
  deriving DecidableEq, Repr

namespace Journal

/-- Entries written one after another, each with its line end. -/
def textOf (entries : List String) : String := String.join (entries.map (· ++ "\n"))

/-- With more behind it. -/
def append (a b : Journal) : Journal := ⟨a.access ++ b.access, a.errors ++ b.errors⟩

instance : Append Journal := ⟨append⟩

/-- The journal of entries of the access log alone. -/
def ofAccess (entries : List String) : Journal := { access := entries }

/-- The journal of notices alone. -/
def ofNotices (notices : List Notice) : Journal := { errors := notices.map Notice.line }

end Journal

end StaticPreview
