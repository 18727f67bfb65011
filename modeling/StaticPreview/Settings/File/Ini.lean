/-
# StaticPreview.Settings.File.Ini -- settings written as INI files

A file is a list of sections in square brackets and of entries, which belong to the
section before them or, in front of all sections, to none.  All values are texts.

A comment starts a line and nothing else does; a key goes on over ends of lines up
to its sign.  A section that is opened again starts anew, and of the values of a
repeated key the last one counts.
-/
import StaticPreview.Settings.Value
import StaticPreview.Text.Blank
import StaticPreview.Text.Radix

namespace StaticPreview.Settings.File.Ini

open StaticPreview.Text

/-- A character by four hexadecimal digits, of which the first may be a plus. -/
def code : Reader Char := do
  let digits ← Reader.exactRun (fun _ => true) 4
  let digits :=
    match digits with
    | '+' :: r => r
    | r => r
  if !digits.all (Radix.isDigit 16) then Reader.refuse
  match Radix.char? (Radix.value 16 digits) with
  | some c => pure c
  | none => Reader.refuse

/-- What a backslash and the characters behind it stand for.  The end of a line
stands for nothing, and a character of no meaning for itself. -/
def escape : Reader (List Char) := do
  Reader.char '\\'
  match ← Reader.next with
  | '0' => pure ['\x00']
  | 'a' => pure ['\x07']
  | 'b' => pure ['\x08']
  | 't' => pure ['\t']
  | 'r' => pure ['\r']
  | 'n' => pure ['\n']
  | '\n' => pure []
  | 'x' => (fun c => [c]) <$> code
  | c => pure [c]

/-- The text up to a character of a kind. -/
def upTo (stops : Char → Bool) : Reader (List Char) := do
  let pieces ← Reader.many ((do
    let c ← Reader.satisfying fun c => !stops c && c != '\\'
    pure [c]) <|> escape)
  pure pieces.flatten

/-- Whether a character ends a line. -/
def isLineEnd (c : Char) : Bool := c == '\n' || c == '\r'

/-- A comment, from the end of the line before it to its own. -/
def comment : Reader Unit := do
  Reader.char '\n'
  let _ ← Reader.satisfying fun c => c == ';' || c == '#'
  let _ ← Reader.run (· != '\n')

/-- Blanks, ends of lines and comments. -/
def gap : Reader Unit := do
  let _ ← Reader.many (comment <|> (do let _ ← Reader.satisfying isBlank))

/-- The rest of a line, which stays at its end. -/
def line : Reader (List Char) := do
  let cs ← upTo isLineEnd
  match ← Reader.peek? with
  | none => pure cs
  | some c => if isLineEnd c then pure cs else Reader.refuse

/-- A text within quotes, and what follows it in its line. -/
def quotedLine (quote : Char) : Reader (List Char) := do
  Reader.char quote
  let cs ← upTo (· == quote)
  Reader.char quote
  let rest ← line
  pure (cs ++ rest)

/-- A value, without the blanks around it. -/
def value : Reader String := do
  let _ ← Reader.run fun c => isBlank c && !isLineEnd c
  let cs ←
    match ← Reader.peek? with
    | some '"' => quotedLine '"'
    | some '\'' => quotedLine '\''
    | _ => line
  pure (String.ofList (trim cs))

/-- What a file is made of. -/
inductive Piece where
  | section (name : String)
  | entry (key value : String)
  deriving DecidableEq, Repr

/-- Whether a character puts an end to a key. -/
def isSign (c : Char) : Bool := c == '=' || c == ':'

/-- The opening of a section. -/
def sectionPiece : Reader Piece := do
  Reader.char '['
  let name ← upTo (· == ']')
  Reader.char ']'
  pure (.section (String.ofList (trim name)))

/-- An entry. -/
def entryPiece : Reader Piece := do
  match ← Reader.peek? with
  | some '[' => Reader.refuse
  | some ';' => Reader.refuse
  | some '#' => Reader.refuse
  | _ => pure ()
  let key ← upTo isSign
  let _ ← Reader.satisfying isSign
  let key := trim key
  if key = [] then Reader.refuse
  let value ← value
  pure (.entry (String.ofList key) value)

/-- The pieces of a file. -/
def pieces : Reader (List Piece) := do
  gap
  Reader.many (do
    let piece ← sectionPiece <|> entryPiece
    gap
    pure piece)

/-- A file that is being read: its fields so far, and the section it is in. -/
structure Progress where
  fields : Fields Value := []
  within : Option String := none

/-- A file after one more piece. -/
def Progress.step (p : Progress) : Piece → Progress
  | .section name => { fields := Fields.set name Value.empty p.fields, within := some name }
  | .entry key value =>
      let value := Value.ofText value
      match p.within with
      | none => { p with fields := Fields.set key value p.fields }
      | some name =>
          { p with
            fields :=
              Fields.put name (fun old => (old.getD Value.empty).put key fun _ => value) p.fields }

/-- The value of a file. -/
def read (s : List Char) : Option Value := do
  let all ← Reader.all? pieces ('\n' :: s)
  some (.table none (all.foldl Progress.step {}).fields)

end StaticPreview.Settings.File.Ini
