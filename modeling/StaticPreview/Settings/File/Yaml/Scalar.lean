/-
# StaticPreview.Settings.File.Yaml.Scalar -- scalars of YAML as they are written

A scalar in quotes is a text.  One without quotes ends where a colon, a comment or,
within a flow, a sign of the flow could stand.  A scalar that goes on over lines is
folded (`fold`): a single end of line counts as a blank, and of several the first does
not count.

In front of a node can stand its name, behind an ampersand, and its kind, behind an
exclamation mark; a name behind an asterisk stands for the node that has it.
-/
import StaticPreview.Settings.File.Yaml.Node

namespace StaticPreview.Settings.File.Yaml

open StaticPreview.Text

/-! ## Blanks, ends of lines, comments -/

/-- Whether a character is a blank within a line. -/
def isSpace (c : Char) : Bool := c == ' ' || c == '\t'

/-- Whether a line ends here or a blank stands here. -/
def atSpace : Reader Bool := do
  match ← Reader.peek? with
  | none => pure true
  | some c => pure (isSpace c || c == '\n')

/-- Blanks within a line. -/
def blank : Reader Unit := do let _ ← Reader.run isSpace

/-- A comment, up to the end of its line. -/
def comment : Reader Unit := do
  Reader.char '#'
  let _ ← Reader.run (· != '\n')

/-- The rest of a line on which nothing more stands than a comment, which needs a blank
in front of it. -/
def lineRest : Reader Unit := do
  let spaces ← Reader.run isSpace
  if spaces ≠ [] then
    let _ ← Reader.optional comment
  Reader.char '\n'

/-- A line on which nothing stands. -/
def emptyLine : Reader Unit := do
  blank
  let _ ← Reader.optional comment
  Reader.char '\n'

/-- Lines on which nothing stands. -/
def emptyLines : Reader Unit := do let _ ← Reader.many emptyLine

/-- The column at which a line starts. -/
def column : Reader Nat := fun s => some ((s.takeWhile (· == ' ')).length, s)

/-- The start of a line at a column. -/
def indent (n : Nat) : Reader Unit := do
  let spaces ← Reader.run (· == ' ')
  if spaces.length ≠ n then Reader.refuse

/-- Blanks, ends of lines and comments within a flow. -/
def gap : Reader Unit := do
  blank
  let _ ← Reader.many (do
    let _ ← Reader.optional comment
    Reader.char '\n'
    blank)

/-! ## Scalars over several lines -/

/-- Ends of lines, with the blanks around them, within a scalar: what they count as.
The line that follows must reach a column. -/
def fold (least : Nat) : Reader (List Char) := do
  blank
  Reader.char '\n'
  let empty ← Reader.many (do
    blank
    Reader.char '\n')
  if (← column) < least then Reader.refuse
  blank
  pure (if empty.isEmpty then [' '] else List.replicate empty.length '\n')

/-- The letters of escapes, with what they stand for. -/
def escapes : List (Char × Char) := [
  ('0', '\x00'), ('a', '\x07'), ('b', '\x08'), ('t', '\t'), ('\t', '\t'), ('n', '\n'),
  ('v', '\x0b'), ('f', '\x0c'), ('r', '\r'), ('e', '\x1b'), (' ', ' '), ('"', '"'), ('/', '/'),
  ('\\', '\\'), ('N', '\u0085'), ('_', '\u00A0'), ('L', '\u2028'), ('P', '\u2029')]

/-- The character of so many hexadecimal digits. -/
def code (count : Nat) : Reader (List Char) := do
  match Radix.char? (← Radix.hexadecimal count) with
  | some c => pure [c]
  | none => Reader.refuse

/-- What a backslash and the characters behind it stand for. -/
def escape : Reader (List Char) := do
  Reader.char '\\'
  match ← Reader.next with
  | 'x' => code 2
  | 'u' => code 4
  | 'U' => code 8
  | '\n' => do
      let empty ← Reader.many (do
        blank
        Reader.char '\n')
      blank
      pure (List.replicate empty.length '\n')
  | c =>
      match escapes.lookup c with
      | some d => pure [d]
      | none => Reader.refuse

/-- Blanks that do not end a line. -/
def innerSpace : Reader (List Char) := do
  let spaces ← Reader.run1 isSpace
  match ← Reader.peek? with
  | some c => if c == '\n' then Reader.refuse else pure spaces
  | none => Reader.refuse

/-- A scalar in double quotes. -/
def doubleQuoted (least : Nat) : Reader (List Char) := do
  Reader.char '"'
  let pieces ← Reader.many (
    Reader.run1 (fun c => !isSpace c && c != '\n' && c != '"' && c != '\\') <|>
    innerSpace <|> escape <|> fold least)
  Reader.char '"'
  pure pieces.flatten

/-- A scalar in single quotes; two of them stand for one. -/
def singleQuoted (least : Nat) : Reader (List Char) := do
  Reader.char '\''
  let pieces ← Reader.many (
    Reader.run1 (fun c => !isSpace c && c != '\n' && c != '\'') <|>
    innerSpace <|>
    (do
      Reader.exactly ['\'', '\'']
      pure ['\'']) <|>
    fold least)
  Reader.char '\''
  pure pieces.flatten

/-- A scalar in quotes. -/
def quotedScalar (least : Nat) : Reader (List Char) := doubleQuoted least <|> singleQuoted least

/-- Whether a character has a meaning of its own within a flow. -/
def isFlowSign (c : Char) : Bool :=
  c == ',' || c == '[' || c == ']' || c == '\x7b' || c == '\x7d'

/-- Whether a character cannot start a scalar without quotes. -/
def isSign (c : Char) : Bool :=
  isFlowSign c || c ∈ ['#', '&', '*', '!', '|', '>', '\'', '"', '%', '@', '\x60']

/-- Whether a character can stand behind a dash, a colon or a question mark that belongs
to a scalar. -/
def goesOn (flow : Bool) (c : Char) : Bool :=
  !isSpace c && c != '\n' && !(flow && isFlowSign c)

/-- A character within a scalar without quotes. -/
def plainChar (flow : Bool) : Reader Char := do
  let c ← Reader.satisfying (goesOn flow)
  if c == ':' then
    match ← Reader.peek? with
    | some d => if goesOn flow d then pure c else Reader.refuse
    | none => Reader.refuse
  else pure c

/-- The first character of a scalar without quotes. -/
def plainStart (flow : Bool) : Reader Char := do
  let c ← Reader.satisfying fun c => goesOn flow c && !isSign c
  if c == '-' || c == '?' || c == ':' then
    match ← Reader.peek? with
    | some d => if goesOn flow d then pure c else Reader.refuse
    | none => Reader.refuse
  else pure c

/-- More of a scalar without quotes behind a blank or an end of line; a comment is not. -/
def plainMore (flow : Bool) (between : Reader (List Char)) : Reader (List Char) := do
  let space ← between
  if (← Reader.peek?) = some '#' then Reader.refuse
  let c ← plainChar flow
  let cs ← Reader.many (plainChar flow)
  pure (space ++ c :: cs)

/-- A scalar without quotes, with what may stand between its words. -/
def plain (flow : Bool) (between : Reader (List Char)) : Reader (List Char) := do
  let c ← plainStart flow
  let cs ← Reader.many (plainChar flow)
  let more ← Reader.many (plainMore flow between)
  pure (c :: cs ++ more.flatten)

/-- A scalar in quotes, as a node. -/
def quoted (least : Nat) : Reader Node := Node.quoted <$> quotedScalar least

/-- A scalar without quotes, as a node of no particular kind. -/
def unquoted (flow : Bool) (between : Reader (List Char)) : Reader Node :=
  Node.plain none <$> plain flow between

/-! ## Names and kinds -/

/-- Whether a character can stand in the name of a node. -/
def isNameChar (c : Char) : Bool := goesOn true c && c != '\uFEFF'

/-- A name behind a sign. -/
def nameBehind (sign : Char) : Reader String := do
  Reader.char sign
  String.ofList <$> Reader.run1 isNameChar

/-- A node before this one, by its name. -/
def reference : Reader Node := Node.reference <$> nameBehind '*'

/-- Whether a character can stand in a word that names a kind. -/
def isKindWord (c : Char) : Bool := c.isAlphanum || c == '_' || c == '-'

/-- Whether a character can stand in the name of a kind; an escape starts with a percent
sign. -/
def isKindChar (c : Char) : Bool :=
  isKindWord c || c ∈ ['#', ';', '/', '?', ':', '@', '&', '=', '+', '$', '.', '~', '*', '\'',
    '(', ')']

/-- A piece of the name of a kind. -/
def kindPiece : Reader (List Char) :=
  Reader.run1 isKindChar <|>
  (do
    Reader.char '%'
    let _ ← Radix.hexadecimal 2
    pure ['%'])

/-- The kinds by their names; all other names stand for texts. -/
def kinds : List (String × Kind) :=
  [("null", .nothing), ("bool", .boolean), ("int", .integer), ("float", .floating)]

/-- A kind, by its name behind the sign of kinds, twice for the kinds of the format. -/
def kind (flow : Bool) : Reader Kind := do
  Reader.char '!'
  let k ←
    (do
      Reader.char '<'
      let _ ← Reader.many (
        kindPiece <|> Reader.run1 fun c => c == '!' || c == ',' || c == '[' || c == ']')
      Reader.char '>'
      pure Kind.text) <|>
    (do
      Reader.char '!'
      let first ← kindPiece
      let more ← Reader.many kindPiece
      pure ((kinds.lookup (String.ofList (first ++ more.flatten))).getD .text)) <|>
    (do
      let _ ← Reader.run isKindWord
      if (← Reader.peek?) = some '!' then Reader.refuse
      let _ ← Reader.many kindPiece
      pure Kind.text)
  match ← Reader.peek? with
  | some c => if goesOn flow c then Reader.refuse else pure k
  | none => pure k

/-- The name and the kind of a node, in either order, of which one may be missing. -/
def properties (flow : Bool) : Reader Properties :=
  (do
    let name ← nameBehind '&'
    let kind ← Reader.optional (do
      blank
      kind flow)
    pure { name, kind }) <|>
  (do
    let kind ← kind flow
    let name ← Reader.optional (do
      blank
      nameBehind '&')
    pure { name, kind })

/-- A reader of what must stand on one line. -/
def onOneLine {α : Type} (r : Reader α) : Reader α := fun s =>
  match r s with
  | some (a, t) => if '\n' ∈ s.take (s.length - t.length) then none else some (a, t)
  | none => none

/-- A scalar as a key, with its name and its kind in front of it, or a name. -/
def key (flow : Bool) (between : Reader (List Char)) : Reader Node :=
  reference <|>
  (do
    let p ← properties flow
    let _ ← Reader.run1 isSpace
    p.on <$> (quoted 0 <|> unquoted flow between)) <|>
  quoted 0 <|> unquoted flow between

end StaticPreview.Settings.File.Yaml
