/-
# StaticPreview.Settings.File.Yaml.Node -- what a document says

A node is what stands at a place of a document: a scalar, a sequence, a table, or the
name of a node before it.  A node can be given a name, and a scalar without quotes a
kind that it is to be read as.  Without a kind, it is a number, a boolean or nothing
when it reads as such (`resolve`), and a text otherwise.

What a node stands for is said by `Node.value`:

* a name stands for the last node before it that was given this name, but for nothing
  within that very node, and a name that no node was given is a fault;
* the keys of a table are texts and whole numbers, and no key is repeated.
-/
import StaticPreview.Number.Binary64.Reader
import StaticPreview.Number.Integer64
import StaticPreview.Settings.Value
import StaticPreview.Text.Radix

namespace StaticPreview.Settings.File.Yaml

open StaticPreview.Number StaticPreview.Text

/-! ## Scalars without quotes -/

/-- The number of digits of a base with a sign, if it is one of 64 bits. -/
def readBased? (base : Nat) (s : List Char) : Option Int :=
  let (negative, digits) :=
    match s with
    | '+' :: r => (false, r)
    | '-' :: r => (true, r)
    | s => (false, s)
  if digits = [] ∨ !digits.all (Radix.isDigit base) then none
  else Integer64.ofSize? negative (Radix.value base digits)

/-- The whole number that a scalar stands for; a plus in front of it does not matter. -/
def readInteger? : List Char → Option Int
  | '0' :: 'x' :: s => readBased? 16 s
  | '0' :: 'o' :: s => readBased? 8 s
  | '+' :: s => (Integer64.read s).toOption
  | s => (Integer64.read s).toOption

/-- The words for what is no decimal number but counts as a number. -/
def numberWords : List String :=
  [".inf", ".Inf", ".INF", "+.inf", "+.Inf", "+.INF", "-.inf", "-.Inf", "-.INF",
    ".nan", "NaN", ".NAN"]

/-- Whether a scalar counts as a number that may have a fraction. -/
def isFloating (s : List Char) : Bool :=
  numberWords.contains (String.ofList s) ||
    (s.any Decimal.isDigit && (Binary64.read? s).isSome)

/-- The number that a scalar stands for; one that is written in a way that only this
format has is none at all. -/
def floating? (s : List Char) : Option Scalar := (Binary64.read? s).map .floating

/-- What a scalar without quotes stands for. -/
def resolve (s : List Char) : Option Scalar :=
  let word := String.ofList s
  if word = "~" ∨ word = "null" then some .nothing
  else if word = "true" then some (.boolean true)
  else if word = "false" then some (.boolean false)
  else
    match readInteger? s with
    | some n => some (.integer n)
    | none => if isFloating s then floating? s else some (.text word)

/-- A kind of scalars. -/
inductive Kind where
  | nothing
  | boolean
  | integer
  | floating
  | text
  deriving DecidableEq, Repr

/-- What a scalar without quotes stands for when it is to be read as of a kind: nothing
when it is not of this kind. -/
def Kind.read (s : List Char) : Kind → Option Scalar
  | .nothing => some .nothing
  | .boolean =>
      let word := String.ofList s
      some (if word = "true" then .boolean true
        else if word = "false" then .boolean false else .nothing)
  | .integer => some ((Integer64.read s).toOption.elim .nothing .integer)
  | .floating => if isFloating s then floating? s else some .nothing
  | .text => some (.text (String.ofList s))

/-! ## Nodes -/

/-- What stands at a place of a document. -/
inductive Node where
  | plain (kind : Option Kind) (s : List Char)
  | quoted (s : List Char)
  | sequence (items : List Node)
  | table (fields : List (Node × Node))
  | named (name : String) (node : Node)
  | reference (name : String)

/-- What stands where nothing is written. -/
def Node.nothing : Node := .plain none ['~']

/-- What stands where nothing is written behind a name or a kind. -/
def Node.unwritten : Node := .plain none []

/-- What is said of a node in front of it. -/
structure Properties where
  name : Option String := none
  kind : Option Kind := none
  deriving Repr

/-- A node of which something is said. -/
def Properties.on (p : Properties) (node : Node) : Node :=
  let node :=
    match node with
    | .plain none s => .plain p.kind s
    | node => node
  p.name.elim node (Node.named · node)

/-! ## Names -/

/-- The names that were given so far, latest first, with what they stand for; the value
of a node that is not complete is missing. -/
abbrev Names := List (String × Option Value)

namespace Names

/-- The names when the latest node that is not complete has got its value. -/
def complete (v : Value) : Names → Names
  | [] => []
  | (name, none) :: rest => (name, some v) :: rest
  | entry :: rest => entry :: complete v rest

/-- What a name stands for. -/
def value? (names : Names) (name : String) : Option Value :=
  (names.lookup name).map (·.getD Value.nothing)

end Names

/-! ## Values -/

/-- Values made with the names that are known so far. -/
abbrev Valued := StateT Names Option

/-- Nothing is stood for. -/
def Valued.refuse {α : Type} : Valued α := fun _ => none

/-- The scalar that a value is when it can be a key. -/
def keyScalar : Value → Valued Scalar
  | .scalar _ (.text s) => pure (.text s)
  | .scalar _ (.integer n) => pure (.integer n)
  | _ => Valued.refuse

/-- The text of a key. -/
def keyText : Scalar → String
  | .text s => s
  | .integer n => String.ofList (Decimal.signed n)
  | _ => ""

/-- A table of fields in which no key is repeated. -/
def tableOf (entries : List (Scalar × Value)) : Valued Value :=
  if (entries.map Prod.fst).Nodup then
    pure (.table none (Fields.ofList (entries.map fun (k, v) => (keyText k, v))))
  else Valued.refuse

mutual

/-- What a node stands for. -/
def Node.value : Node → Valued Value
  | .plain kind s =>
      match kind.elim (resolve s) (Kind.read s) with
      | some scalar => pure (.ofScalar scalar)
      | none => Valued.refuse
  | .quoted s => pure (.ofText (String.ofList s))
  | .sequence items => do
      let values ← Node.values items
      pure (.sequence none values)
  | .table fields => do
      let entries ← Node.entries fields
      tableOf entries
  | .named name node => do
      modify ((name, none) :: ·)
      let v ← Node.value node
      modify (Names.complete v)
      pure v
  | .reference name => do
      match Names.value? (← get) name with
      | some v => pure v
      | none => Valued.refuse

/-- What nodes stand for, one after another. -/
def Node.values : List Node → Valued (List Value)
  | [] => pure []
  | node :: nodes => do
      let v ← Node.value node
      let vs ← Node.values nodes
      pure (v :: vs)

/-- What the keys and values of a table stand for, one after another. -/
def Node.entries : List (Node × Node) → Valued (List (Scalar × Value))
  | [] => pure []
  | (key, node) :: fields => do
      let k ← Node.value key
      let k ← keyScalar k
      let v ← Node.value node
      let rest ← Node.entries fields
      pure ((k, v) :: rest)

end

end StaticPreview.Settings.File.Yaml
