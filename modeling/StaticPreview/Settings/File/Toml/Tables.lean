/-
# StaticPreview.Settings.File.Toml.Tables -- the tables of a TOML document

A document says in several places what stands in a table, and not every way of
coming back to a table is allowed:

* a table is opened by its header once; a table that was only passed on the way to
  another one (`Made.implied`) can still be opened;
* a table that came about by dotted keys (`Made.dotted`) takes more dotted keys, but
  no header;
* a series of tables only grows, and what goes on below it goes on in its last one;
* a value is closed, and no key is set twice.
-/
import StaticPreview.Settings.Value

namespace StaticPreview.Settings.File.Toml

/-- How a table came about. -/
inductive Made where
  | header
  | implied
  | dotted
  deriving DecidableEq, Repr

/-- What stands under a key of a document. -/
inductive Node where
  | value (v : Value)
  | table (made : Made) (fields : List (String × Node))
  | series (tables : List Node)

/-- A dotted key: the tables that it goes through, and the name in the last of them. -/
structure Path where
  within : List String
  name : String
  deriving DecidableEq, Repr

namespace Node

/-- A table opened by a header. -/
def opened : Node := .table .header []

/-- A node with what is at the end of a way changed.  Tables that are missing on the
way come about as `made` says; one opened by a header is not passed by dotted keys. -/
def change (made : Made) (f : Node → Option Node) : List String → Node → Option Node
  | [], node => f node
  | key :: way, .table here fields => do
      let below ←
        match (fields.lookup key).getD (.table made []) with
        | .table other inner =>
            if made = .dotted ∧ other = .header then none
            else change made f way (.table other inner)
        | .series tables =>
            match tables.getLast? with
            | some last => do
                let last ← change made f way last
                some (.series (tables.dropLast ++ [last]))
            | none => none
        | .value _ => none
      some (.table here (Fields.set key below fields))
  | _ :: _, _ => none

/-- A table with a value set under a dotted key. -/
def enter (key : Path) (value : Value) : Node → Option Node :=
  change .dotted (fun
    | .table made fields =>
        if (made = .dotted) ≠ (key.within ≠ []) ∨ (fields.lookup key.name).isSome then none
        else some (.table made (fields ++ [(key.name, .value value)]))
    | _ => none) key.within

/-- A document with a table opened by its header. -/
def openTable (key : Path) : Node → Option Node :=
  change .implied (fun
    | .table made fields =>
        match fields.lookup key.name with
        | none => some (.table made (fields ++ [(key.name, opened)]))
        | some (.table .implied inner) =>
            some (.table made (Fields.set key.name (.table .header inner) fields))
        | some _ => none
    | _ => none) key.within

/-- A document with one more table in a series. -/
def openNext (key : Path) : Node → Option Node :=
  change .implied (fun
    | .table made fields =>
        match fields.lookup key.name with
        | none => some (.table made (fields ++ [(key.name, .series [opened])]))
        | some (.series tables) =>
            some (.table made (Fields.set key.name (.series (tables ++ [opened])) fields))
        | some _ => none
    | _ => none) key.within

mutual

/-- The value that a node stands for. -/
def toValue : Node → Value
  | .value v => v
  | .table _ fields => .table none (fieldsToValues fields)
  | .series tables => .sequence none (toValues tables)

/-- The values that nodes stand for. -/
def toValues : List Node → List Value
  | [] => []
  | node :: nodes => node.toValue :: toValues nodes

/-- The values that fields stand for. -/
def fieldsToValues : List (String × Node) → List (String × Value)
  | [] => []
  | (key, node) :: fields => (key, node.toValue) :: fieldsToValues fields

end

end Node

/-- The table of values set under dotted keys. -/
def tableOf? (entries : List (Path × Value)) : Option Value :=
  (entries.foldlM (fun node (key, value) => Node.enter key value node) Node.opened).map Node.toValue

/-- What a line of a document does. -/
inductive Line where
  | entry (key : Path) (value : Value)
  | table (key : Path)
  | next (key : Path)

/-- A document that is being read: what it holds so far, and the way to the table
that entries go to. -/
structure Progress where
  root : Node := .opened
  current : List String := []

/-- A document after one more line. -/
def Progress.step (p : Progress) : Line → Option Progress
  | .entry key value => do
      let root ← p.root.change .implied (Node.enter key value) p.current
      some { p with root }
  | .table key => do
      let root ← p.root.openTable key
      some { root, current := key.within ++ [key.name] }
  | .next key => do
      let root ← p.root.openNext key
      some { root, current := key.within ++ [key.name] }

/-- The document of some lines. -/
def document? (lines : List Line) : Option Value :=
  (lines.foldlM Progress.step {}).map fun p => p.root.toValue

end StaticPreview.Settings.File.Toml
