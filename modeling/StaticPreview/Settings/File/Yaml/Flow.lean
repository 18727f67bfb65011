/-
# StaticPreview.Settings.File.Yaml.Flow -- sequences and tables in brackets

Within brackets ends of lines and indentation do not matter.  A value of a table may
be missing, and a field may stand alone in a sequence.  A question mark in front of a
key allows for every node as the key.
-/
import StaticPreview.Settings.File.Yaml.Scalar

namespace StaticPreview.Settings.File.Yaml

open StaticPreview.Text

/-! ## Fields -/

/-- A sign that starts a part of a field, with a blank behind it. -/
def mark (sign : Char) : Reader Unit := do
  Reader.char sign
  if !(← atSpace) then Reader.refuse

/-- A node, or nothing where none is written. -/
def orNothing (item : Reader Node) : Reader Node := item <|> pure Node.nothing

/-- The value behind a key within a flow, which may be missing. -/
def flowValue (item : Reader Node) : Reader Node :=
  (do
    gap
    Reader.char ':'
    gap
    orNothing item) <|> pure Node.nothing

/-- A field whose key stands behind a question mark. -/
def markedField (item : Reader Node) : Reader (Node × Node) := do
  mark '?'
  gap
  let k ← orNothing item
  let v ← flowValue item
  pure (k, v)

/-- A field of a table within a flow. -/
def flowField (item : Reader Node) : Reader (Node × Node) :=
  markedField item <|>
  (do
    let k ← key true (innerSpace <|> fold 0)
    let v ← flowValue item
    pure (k, v))

/-- A field alone in a sequence, which is a table for itself. -/
def singleField (item : Reader Node) : Reader Node := do
  let field ← markedField item <|>
    (do
      let k ← onOneLine (key true innerSpace)
      blank
      Reader.char ':'
      gap
      let v ← orNothing item
      pure (k, v))
  pure (.table [field])

/-! ## Flows -/

/-- Items between brackets with commas between them, and maybe one behind them. -/
def flowList {α : Type} (opening closing : Char) (item : Reader α) : Reader (List α) := do
  Reader.char opening
  let items ← Reader.separated (do
    gap
    let a ← item
    gap
    pure a) (Reader.char ',')
  if !items.isEmpty then
    let _ ← Reader.optional (Reader.char ',')
  gap
  Reader.char closing
  pure items

/-- What a node within a flow is apart from its name and its kind. -/
def flowContent (item : Reader Node) : Reader Node :=
  Node.sequence <$> flowList '[' ']' (singleField item <|> item) <|>
  Node.table <$> flowList '\x7b' '\x7d' (flowField item) <|>
  quoted 0 <|> unquoted true (innerSpace <|> fold 0)

/-- A node within a flow, with others nested in it to a depth. -/
def flow : Nat → Reader Node
  | 0 => Reader.refuse
  | depth + 1 =>
      reference <|>
      (do
        let p ← properties true
        let content ← Reader.optional (do
          gap
          flowContent (flow depth))
        pure (p.on (content.getD Node.unwritten))) <|>
      flowContent (flow depth)

/-- How deep flows may be nested. -/
def maxFlow : Nat := 255

end StaticPreview.Settings.File.Yaml
