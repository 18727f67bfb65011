/-
# StaticPreview.Settings.File.Toml -- settings written in TOML

A document is a list of lines: entries, headers of tables and headers of series.
Values are texts, numbers, booleans, points in time (which are kept as texts), and
arrays and inline tables of values, nested less than 80 deep (`maxDepth`).

Numbers are those of 64 bits, and no number is read as the positive infinity unless
it is written so.
-/
import StaticPreview.Number.Binary64
import StaticPreview.Number.Integer64
import StaticPreview.Settings.File.Toml.Tables
import StaticPreview.Text.Radix
import StaticPreview.Time.Calendar

namespace StaticPreview.Settings.File.Toml

open StaticPreview.Number StaticPreview.Text

/-- How deep values may be nested, and how many names a dotted key has at most. -/
def maxDepth : Nat := 79

/-! ## Blanks and comments -/

/-- Whether a character may stand for itself in a document. -/
def isPlain (c : Char) : Bool := c == '\t' || (' ' ≤ c && c != '\x7f')

/-- Blanks within a line. -/
def blank : Reader Unit := do let _ ← Reader.run fun c => c == ' ' || c == '\t'

/-- The end of a line. -/
def lineBreak : Reader Unit := Reader.char '\n' <|> Reader.exactly ['\r', '\n']

/-- The end of a line or of the document. -/
def lineEnd : Reader Unit := lineBreak <|> Reader.atEnd

/-- A comment. -/
def comment : Reader Unit := do
  Reader.char '#'
  let _ ← Reader.run isPlain

/-- What may stand behind an entry or a header, up to the end of the line. -/
def trailing : Reader Unit := do
  blank
  let _ ← Reader.optional comment
  lineEnd

/-- Blanks, ends of lines and comments within an array. -/
def gap : Reader Unit := do
  blank
  let _ ← Reader.many (do
    let _ ← Reader.optional comment
    lineBreak
    blank)

/-! ## Texts -/

/-- Whether a character stands for itself in a text with escapes. -/
def isBasic (c : Char) : Bool := isPlain c && c != '"' && c != '\\'

/-- Whether a character stands for itself in a text without escapes. -/
def isLiteral (c : Char) : Bool := isPlain c && c != '\''

/-- The character of so many hexadecimal digits. -/
def scalar (count : Nat) : Reader Char := do
  match Radix.char? (← Radix.hexadecimal count) with
  | some c => pure c
  | none => Reader.refuse

/-- An escaped character. -/
def escape : Reader Char := do
  Reader.char '\\'
  match ← Reader.next with
  | 'b' => pure '\x08'
  | 't' => pure '\t'
  | 'n' => pure '\n'
  | 'f' => pure '\x0c'
  | 'r' => pure '\r'
  | '"' => pure '"'
  | '\\' => pure '\\'
  | 'u' => scalar 4
  | 'U' => scalar 8
  | _ => Reader.refuse

/-- An escaped end of line, with all blanks and ends of lines behind it. -/
def joint : Reader Unit := do
  Reader.char '\\'
  blank
  lineBreak
  let _ ← Reader.many (lineBreak <|> (do let _ ← Reader.satisfying fun c => c == ' ' || c == '\t'))

/-- A text with escapes in one line. -/
def basicText : Reader String := do
  Reader.char '"'
  let cs ← Reader.many (Reader.satisfying isBasic <|> escape)
  Reader.char '"'
  pure (String.ofList cs)

/-- A text without escapes in one line. -/
def literalText : Reader String := do
  Reader.char '\''
  let cs ← Reader.run isLiteral
  Reader.char '\''
  pure (String.ofList cs)

/-- One or two quotes that do not end a text in several lines. -/
def looseQuotes (quote : Char) : Reader (List Char) := do
  let quotes ← Reader.run1 (· == quote)
  if 3 ≤ quotes.length ∨ (← Reader.peek?) = none then Reader.refuse
  pure quotes

/-- A text in several lines, within three quotes.  Up to two quotes more at its end
belong to the text. -/
def blockText (quote : Char) (piece : Reader (List Char)) : Reader String := do
  Reader.exactly [quote, quote, quote]
  let _ ← Reader.optional lineBreak
  let pieces ← Reader.many (piece <|> looseQuotes quote)
  let quotes ← Reader.run1 (· == quote)
  if quotes.length < 3 ∨ 5 < quotes.length then Reader.refuse
  pure (String.ofList (pieces.flatten ++ quotes.drop 3))

/-- The end of a line within a text. -/
def newLine : Reader (List Char) := do
  lineBreak
  pure ['\n']

/-- A piece of a text with escapes in several lines. -/
def basicPiece : Reader (List Char) :=
  Reader.run1 isBasic <|>
  (do
    joint
    pure []) <|>
  (do
    let c ← escape
    pure [c]) <|>
  newLine

/-- A text. -/
def text : Reader String :=
  blockText '"' basicPiece <|> basicText <|>
  blockText '\'' (Reader.run1 isLiteral <|> newLine) <|> literalText

/-! ## Keys -/

/-- Whether a character may stand in a key without quotes. -/
def isBare (c : Char) : Bool := c.isAlphanum || c == '_' || c == '-'

/-- One name of a key, with blanks around it. -/
def name : Reader String := do
  blank
  let name ← basicText <|> literalText <|> String.ofList <$> Reader.run1 isBare
  blank
  pure name

/-- A dotted key. -/
def path : Reader Path := do
  let first ← name
  let rest ← Reader.many (do
    Reader.char '.'
    name)
  let names := first :: rest
  if maxDepth < names.length then Reader.refuse
  pure { within := names.dropLast, name := names.getLastD first }

/-! ## Numbers -/

/-- Digits with single underscores between them. -/
def grouped (isDigit : Char → Bool) : Reader (List Char) := do
  let c ← Reader.satisfying isDigit
  let cs ← Reader.many ((do
    Reader.char '_'
    Reader.satisfying isDigit) <|> Reader.satisfying isDigit)
  pure (c :: cs)

/-- A sign, and whether it is a minus. -/
def sign : Reader Bool := do
  let c ← Reader.optional (Reader.satisfying fun c => c == '+' || c == '-')
  pure (c == some '-')

/-- The digits of a whole number in decimal: no zero in front of others. -/
def wholeDigits : Reader (List Char) := do
  if (← Reader.peek?) = some '0' then
    let _ ← Reader.next
    pure ['0']
  else grouped Decimal.isDigit

/-- An exponent. -/
def exponent : Reader Int := do
  let _ ← Reader.satisfying fun c => c == 'e' || c == 'E'
  let negative ← sign
  let digits ← grouped Decimal.isDigit
  let n : Int := Decimal.value digits
  pure (if negative then -n else n)

/-- A number with a fraction or an exponent. -/
def fraction : Reader Binary64 := do
  let negative ← sign
  let whole ← wholeDigits
  let part? ← Reader.optional (do
    Reader.char '.'
    grouped Decimal.isDigit)
  let exponent? ← Reader.optional exponent
  if part? = none ∧ exponent? = none then Reader.refuse
  let part := part?.getD []
  let x := Binary64.ofDecimal negative (Decimal.value (whole ++ part))
    (exponent?.getD 0 - part.length)
  if x = .infinite false then Reader.refuse
  pure x

/-- A number written as a word. -/
def wordNumber : Reader Binary64 := do
  let negative ← sign
  (do
    Reader.exactly ['i', 'n', 'f']
    pure (.infinite negative)) <|>
  (do
    Reader.exactly ['n', 'a', 'n']
    pure .nan)

/-- The digits of a whole number behind what names their base. -/
def based (letter : Char) (base : Nat) : Reader Nat := do
  Reader.exactly ['0', letter]
  Radix.value base <$> grouped (Radix.isDigit base)

/-- A whole number. -/
def integer : Reader Int := do
  let (negative, size) ←
    (do
      let n ← based 'x' 16 <|> based 'o' 8 <|> based 'b' 2
      pure (false, n)) <|>
    (do
      let negative ← sign
      let digits ← wholeDigits
      pure (negative, Decimal.value digits))
  match Integer64.ofSize? negative size with
  | some n => pure n
  | none => Reader.refuse

/-! ## Points in time -/

/-- Digits of a number between two bounds. -/
def bounded (count low high : Nat) : Reader (List Char) := do
  let digits ← Reader.exactRun Decimal.isDigit count
  if Decimal.value digits < low ∨ high < Decimal.value digits then Reader.refuse
  pure digits

/-- A date. -/
def date : Reader (List Char) := do
  let year ← bounded 4 0 9999
  Reader.char '-'
  let month ← bounded 2 1 12
  Reader.char '-'
  let day ← bounded 2 1 31
  let d : Time.Date :=
    { year := Decimal.value year, month := Decimal.value month, day := Decimal.value day }
  if ¬ d.Valid then Reader.refuse
  pure (year ++ '-' :: month ++ '-' :: day)

/-- A fraction of a second to nine places, without zeros at its end. -/
def secondPart : Reader (List Char) := do
  Reader.char '.'
  let digits ← Reader.run1 Decimal.isDigit
  let kept := ((digits.take 9).reverse.dropWhile (· == '0')).reverse
  pure (if kept = [] then [] else '.' :: kept)

/-- A time of the day; the last minute may have a leap second. -/
def time : Reader (List Char) := do
  let hour ← bounded 2 0 23
  Reader.char ':'
  let minute ← bounded 2 0 59
  Reader.char ':'
  let second ← bounded 2 0 60
  let part ← Reader.optional secondPart
  pure (hour ++ ':' :: minute ++ ':' :: second ++ part.getD [])

/-- How far a time is off the universal one. -/
def offset : Reader (List Char) :=
  (do
    let _ ← Reader.satisfying fun c => c == 'Z' || c == 'z'
    pure ['Z']) <|>
  (do
    let sign ← Reader.satisfying fun c => c == '+' || c == '-'
    let hour ← bounded 2 0 23
    Reader.char ':'
    let minute ← bounded 2 0 59
    let zero := Decimal.value hour = 0 ∧ Decimal.value minute = 0
    pure ((if zero then '+' else sign) :: hour ++ ':' :: minute))

/-- A point in time, as it is written in full. -/
def moment : Reader (List Char) :=
  (do
    let day ← date
    let rest ← Reader.optional (do
      let _ ← Reader.satisfying fun c => c == 'T' || c == 't' || c == ' '
      let time ← time
      let offset ← Reader.optional offset
      pure ('T' :: time ++ offset.getD []))
    pure (day ++ rest.getD [])) <|>
  time

/-! ## Values -/

/-- A value without parts. -/
def atom : Reader Scalar :=
  Scalar.text <$> text <|>
  (fun s => Scalar.text (String.ofList s)) <$> moment <|>
  Scalar.floating <$> fraction <|>
  Scalar.integer <$> integer <|>
  Scalar.floating <$> wordNumber <|>
  (do
    Reader.exactly ['t', 'r', 'u', 'e']
    pure (.boolean true)) <|>
  (do
    Reader.exactly ['f', 'a', 'l', 's', 'e']
    pure (.boolean false))

/-- An array of items, which may have a comma behind the last one. -/
def array (item : Reader Value) : Reader Value := do
  Reader.char '['
  let items ← Reader.separated (do
    gap
    let v ← item
    gap
    pure v) (Reader.char ',')
  if items ≠ [] then
    let _ ← Reader.optional (Reader.char ',')
  gap
  Reader.char ']'
  pure (.sequence none items)

/-- A key with its value. -/
def entry (item : Reader Value) : Reader (Path × Value) := do
  let key ← path
  Reader.char '='
  blank
  let v ← item
  pure (key, v)

/-- An inline table. -/
def inlineTable (item : Reader Value) : Reader Value := do
  Reader.char '\x7b'
  let entries ← Reader.separated (do
    let e ← entry item
    blank
    pure e) (Reader.char ',')
  blank
  Reader.char '\x7d'
  match tableOf? entries with
  | some v => pure v
  | none => Reader.refuse

/-- A value with others nested in it to a depth. -/
def value : Nat → Reader Value
  | 0 => Value.ofScalar <$> atom
  | depth + 1 =>
      Value.ofScalar <$> atom <|> array (value depth) <|> inlineTable (value depth)

/-! ## Documents -/

/-- A header within brackets. -/
def header (opening closing : List Char) : Reader Path := do
  Reader.exactly opening
  let key ← path
  Reader.exactly closing
  trailing
  pure key

/-- A line, if it says anything. -/
def line : Reader (Option Line) :=
  (do
    comment
    lineEnd
    pure none) <|>
  (do
    lineBreak
    pure none) <|>
  (do
    let key ← header ['[', '['] [']', ']']
    pure (some (.next key))) <|>
  (do
    let key ← header ['['] [']']
    pure (some (.table key))) <|>
  (do
    let (key, v) ← entry (value maxDepth)
    trailing
    pure (some (.entry key v)))

/-- The lines of a document. -/
def lines : Reader (List Line) := do
  let _ ← Reader.optional (Reader.char '\uFEFF')
  blank
  let lines ← Reader.many (do
    let l ← line
    blank
    pure l)
  pure (lines.filterMap id)

/-- The value of a document. -/
def read (s : List Char) : Option Value := do
  let lines ← Reader.all? lines s
  document? lines

end StaticPreview.Settings.File.Toml
