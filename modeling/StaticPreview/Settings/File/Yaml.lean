/-
# StaticPreview.Settings.File.Yaml -- settings written in YAML

A block belongs under the line before it when it stands further to the right; only
the items of a sequence may stand below their key itself.  So a block is read with
the column it must reach (`least`), and the lines to the left of that are left to
whoever reads what stands around it.

A file without any document is an empty table, and one with several is refused.  It
ends at the character zero, and a line with a percent sign in front of a document asks
for a mark where the document starts.
-/
import StaticPreview.Settings.File.Yaml.BlockText
import StaticPreview.Settings.File.Yaml.Flow

namespace StaticPreview.Settings.File.Yaml

open StaticPreview.Text

/-! ## Blocks -/

/-- A node that starts on its line, is no block of lines, and has neither name nor kind. -/
def inline (least : Nat) : Reader Node :=
  Node.quoted <$> blockText least <|>
  (do
    let node ← quoted least <|> unquoted false (innerSpace <|> fold least) <|>
      flowContent (flow maxFlow)
    lineRest
    pure node)

/-- A reader of nodes that start at a column, with the column that their other lines must
reach. -/
abbrev Block := Nat → Nat → Reader Node

/-- The node on the lines that follow, which must reach a column; when there is none, it is
the one that is given. -/
def below (block : Block) (least : Nat) (missing : Node) : Reader Node := do
  emptyLines
  let n ← column
  if n < least ∨ (← Reader.peek?) = none then pure missing
  else
    let _ ← Reader.run (· == ' ')
    block n least

/-- A node behind its name and its kind, on their line or on the lines that follow. -/
def described (lines : Node → Reader Node) (least : Nat) : Reader Node := do
  let p ← properties false
  (do
    lineRest
    p.on <$> lines Node.unwritten) <|>
  (do
    blank
    p.on <$> inline least)

/-- A node before this one, by its name, alone on the rest of its line. -/
def referenceLine : Reader Node := do
  let node ← reference
  lineRest
  pure node

/-- What stands behind a sign at a column, on its line or on the lines that follow. -/
def behindMark (sign : Char) (block : Block) (col : Nat) : Reader Node := do
  mark sign
  (do
    lineRest
    below block (col + 1) Node.nothing) <|>
  (do
    let spaces ← Reader.run1 (· == ' ')
    block (col + 1 + spaces.length) (col + 1))

/-- Pieces of a block at a column, of which the first has its indentation behind it. -/
def blockOf {α : Type} (col : Nat) (piece : Reader α) : Reader (List α) := do
  let first ← piece
  let rest ← Reader.many (do
    emptyLines
    indent col
    piece)
  pure (first :: rest)

/-- A sequence at a column. -/
def sequence (block : Block) (col : Nat) : Reader Node :=
  Node.sequence <$> blockOf col (behindMark '-' block col)

/-- Whether the line that follows is an item of a sequence at a column. -/
def itemFollows (col : Nat) : Reader Bool := fun s =>
  let looks : Reader Unit := do
    emptyLines
    indent col
    mark '-'
  some ((looks s).isSome, s)

/-- The value of a field of a table at a column on the lines that follow. -/
def valueLines (block : Block) (col : Nat) (missing : Node) : Reader Node := do
  if ← itemFollows col then
    emptyLines
    indent col
    sequence block col
  else below block (col + 1) missing

/-- A field of a table at a column, behind its indentation. -/
def field (block : Block) (col : Nat) : Reader (Node × Node) :=
  (do
    let k ← behindMark '?' block col
    let v ← Reader.optional (do
      emptyLines
      indent col
      behindMark ':' block col)
    pure (k, v.getD Node.nothing)) <|>
  (do
    let k ← onOneLine (key false innerSpace)
    blank
    mark ':'
    let v ←
      (do
        lineRest
        valueLines block col Node.nothing) <|>
      (do
        blank
        referenceLine <|> described (valueLines block col) (col + 1) <|> inline (col + 1))
    pure (k, v))

/-- A node that starts at a column; blocks are nested in it to a depth. -/
def block : Nat → Block
  | 0, _, _ => Reader.refuse
  | depth + 1, col, least =>
      sequence (block depth) col <|>
      Node.table <$> blockOf col (field (block depth) col) <|>
      referenceLine <|>
      described (below (block depth) least) least <|>
      inline least

/-- The mark of a document. -/
def documentMark : List Char := ['-', '-', '-']

/-- A document.  On the line of its mark no block of lines starts. -/
def document (depth : Nat) : Reader Node := do
  let lines := below (block depth) 0
  let mark ← Reader.optional (do
    Reader.exactly documentMark
    if !(← atSpace) then Reader.refuse)
  let node ←
    if mark.isSome then
      (do
        lineRest
        lines Node.nothing) <|>
      (do
        blank
        referenceLine <|> described lines 0 <|> inline 0)
    else lines Node.nothing
  emptyLines
  pure node

/-! ## Files -/

/-- A text whose lines all end in the same way, the last one too. -/
def normalLines : List Char → List Char
  | [] => ['\n']
  | ['\n'] => ['\n']
  | '\r' :: '\n' :: r => '\n' :: normalLines r
  | '\r' :: r => '\n' :: normalLines r
  | c :: r => c :: normalLines r

/-- The mark behind a document. -/
def endMark : List Char := ['.', '.', '.']

/-- Whether a line starts with a mark, with a blank behind it. -/
def isMarked (mark line : List Char) : Bool :=
  mark.isPrefixOf line && (line.drop mark.length).head?.all isSpace

/-- Whether nothing but a comment stands on a line. -/
def isEmptyLine (line : List Char) : Bool :=
  match line.dropWhile isSpace with
  | [] => true
  | c :: _ => c == '#'

/-- The documents of a file as lists of lines: those before, the lines of the one that
is open, latest first, whether it is one, and whether it needs a mark to start. -/
structure Documents where
  done : List (List (List Char)) := []
  lines : List (List Char) := []
  isOpen : Bool := false
  needsMark : Bool := false

/-- The documents when the open one ends. -/
def Documents.close (d : Documents) : Documents :=
  if d.isOpen then { done := d.done ++ [d.lines.reverse] } else { done := d.done }

/-- The documents after one more line. -/
def Documents.step (d : Documents) (line : List Char) : Option Documents :=
  if isMarked documentMark line then some { d.close with lines := [line], isOpen := true }
  else if isMarked endMark line then if d.needsMark then none else some d.close
  else if d.isOpen then some { d with lines := line :: d.lines }
  else if isEmptyLine line then some d
  else if line.head? = some '%' then some { d with needsMark := true }
  else if d.needsMark then none
  else some { d with lines := [line], isOpen := true }

/-- The documents of a text. -/
def documents (s : List Char) : Option (List (List (List Char))) := do
  let d ← (Pieces.split '\n' (normalLines s)).dropLast.foldlM Documents.step {}
  if d.needsMark then none else some d.close.done

/-- The value of a text. -/
def read (s : List Char) : Option Value :=
  match documents (s.takeWhile (· != '\x00')) with
  | some [] => some Value.empty
  | some [lines] => do
      let node ← Reader.all? (document (s.length + 2)) (lines.flatMap (· ++ ['\n']))
      (node.value []).map Prod.fst
  | _ => none

end StaticPreview.Settings.File.Yaml
