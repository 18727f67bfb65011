/-
# StaticPreview.Settings.File.Yaml.BlockText -- texts that stand in blocks of lines

A text in a block is made of the lines that reach the column of its first one.  It
keeps its ends of lines, or has them folded (`folded`): the end between two lines
counts as a blank then, but not next to an empty line or to one that starts with a
blank.  What becomes of the ends behind its last line stands in its header.
-/
import StaticPreview.Pieces
import StaticPreview.Settings.File.Yaml.Scalar

namespace StaticPreview.Settings.File.Yaml

open StaticPreview.Text

/-- What becomes of the ends of lines at the end of a text in a block. -/
inductive Chomp where
  | strip
  | clip
  | keep
  deriving DecidableEq, Repr

/-- What stands behind the sign of a text in a block: how far it is indented, and what
becomes of its end. -/
def blockHeader : Reader (Option Nat × Chomp) := do
  let chomp : Reader Chomp :=
    (do
      Reader.char '-'
      pure .strip) <|>
    (do
      Reader.char '+'
      pure .keep)
  let width : Reader Nat := do
    let c ← Reader.satisfying fun c => Decimal.isDigit c && c != '0'
    pure (Decimal.digitValue c)
  let before ← Reader.optional chomp
  let width ← Reader.optional width
  let behind ← Reader.optional chomp
  if before.isSome ∧ behind.isSome then Reader.refuse
  lineRest
  pure (width, (before <|> behind).getD .clip)

/-- A line of a text in a block: what stands on it from a column on. -/
def blockLine (n : Nat) : Reader (List Char) :=
  (do
    let _ ← Reader.exactRun (· == ' ') n
    let cs ← Reader.run (· != '\n')
    Reader.char '\n'
    pure cs) <|>
  (do
    let _ ← Reader.run (· == ' ')
    Reader.char '\n'
    pure [])

/-- The column of the first line on which something stands. -/
def blockColumn : Reader Nat := fun s =>
  let rest := (Reader.many (do
    let _ ← Reader.run (· == ' ')
    Reader.char '\n') s).elim s Prod.snd
  some ((rest.takeWhile (· == ' ')).length, s)

/-- Whether a line keeps its ends when a text is folded. -/
def isApart (line : List Char) : Bool := line.head?.any isSpace

/-- Lines folded behind a line: `empty` empty lines have been passed. -/
def foldLines (apart : Bool) : Nat → List (List Char) → List Char
  | empty, [] => List.replicate empty '\n'
  | empty, [] :: rest => foldLines apart (empty + 1) rest
  | empty, line :: rest =>
      let ends :=
        if apart || isApart line then empty + 1 else empty
      (if ends = 0 then [' '] else List.replicate ends '\n') ++ line ++
        foldLines (isApart line) 0 rest

/-- The text of folded lines. -/
def folded : List (List Char) → List Char
  | [] => []
  | [] :: rest => '\n' :: folded rest
  | line :: rest => line ++ foldLines (isApart line) 0 rest

/-- A text in a block, whose lines must reach a column. -/
def blockText (least : Nat) : Reader (List Char) := do
  let sign ← Reader.satisfying fun c => c == '|' || c == '>'
  let (width?, chomp) ← blockHeader
  let found ← blockColumn
  let n :=
    match width? with
    | some width => least - 1 + width
    | none => found
  if n < least then pure []
  else
    let lines ← Reader.many (blockLine n)
    let body := (lines.reverse.dropWhile List.isEmpty).reverse
    let text := if sign == '|' then Pieces.join '\n' body else folded body
    let ends :=
      match chomp with
      | .strip => 0
      | .clip => if body = [] then 0 else 1
      | .keep => lines.length - body.length + (if body = [] then 0 else 1)
    pure (text ++ List.replicate ends '\n')

end StaticPreview.Settings.File.Yaml
