/-
# StaticPreview.Settings.File.Json5 -- settings written in JSON5

JSON5 is JSON with comments, names without quotes, texts in single quotes, commas
behind the last item, and more ways to write numbers.  A number without a point and
without an exponent is a whole one of 64 bits, in hexadecimal of 32 bits; every other
number is the double nearest to what is written, which must be finite unless it is
written as a word.  Of the values of a repeated key the last one counts.

Every character beyond ASCII that is neither a blank nor one of the common signs is
taken as a letter.
-/
import StaticPreview.Number.Binary64.Reader
import StaticPreview.Number.Integer64
import StaticPreview.Settings.Value
import StaticPreview.Text.Blank
import StaticPreview.Text.Radix
import StaticPreview.Text.Range

namespace StaticPreview.Settings.File.Json5

open StaticPreview.Number StaticPreview.Text

/-! ## Blanks and comments -/

/-- Whether a character ends a line. -/
def isLineEnd (c : Char) : Bool := c == '\n' || c == '\r' || c == '\u2028' || c == '\u2029'

/-- Whether a character is a blank. -/
def isSpace (c : Char) : Bool := (isBlank c && c != '\u0085') || c == '\uFEFF'

/-- Characters up to the end of a comment in signs. -/
def commentRest : List Char → Option (Unit × List Char)
  | '*' :: '/' :: r => some ((), r)
  | _ :: r => commentRest r
  | [] => none

/-- A comment. -/
def comment : Reader Unit :=
  (do
    Reader.exactly ['/', '/']
    let _ ← Reader.run fun c => !isLineEnd c) <|>
  (do
    Reader.exactly ['/', '*']
    commentRest)

/-- Blanks and comments. -/
def gap : Reader Unit := do
  let _ ← Reader.many ((do let _ ← Reader.run1 isSpace) <|> comment)

/-- What a reader reads, and a gap behind it. -/
def spaced {α : Type} (r : Reader α) : Reader α := do
  let a ← r
  gap
  pure a

/-- A character, and a gap behind it. -/
def mark (c : Char) : Reader Unit := spaced (Reader.char c)

/-! ## Texts -/

/-- The letters of escapes, with what they stand for. -/
def escapes : List (Char × Char) := [
  ('b', '\x08'), ('f', '\x0c'), ('n', '\n'), ('r', '\r'), ('t', '\t'), ('v', '\x0b'), ('0', '\x00')]

/-- What a backslash and the characters behind it stand for. -/
def escape : Reader (List Char) := do
  Reader.char '\\'
  match ← Reader.next with
  | 'x' => do
      match Radix.char? (← Radix.hexadecimal 2) with
      | some c => pure [c]
      | none => Reader.refuse
  | 'u' => (fun c => [c]) <$> Radix.utf16 ['\\', 'u']
  | '\r' => do
      let _ ← Reader.optional (Reader.char '\n')
      pure []
  | c =>
      match escapes.lookup c with
      | some d => pure [d]
      | none =>
          if isLineEnd c then pure []
          else if Decimal.isDigit c then Reader.refuse
          else pure [c]

/-- A text within quotes. -/
def textIn (quote : Char) : Reader String := do
  Reader.char quote
  let pieces ← Reader.many ((do
    let c ← Reader.satisfying fun c => c != quote && c != '\\' && !isLineEnd c
    pure [c]) <|> escape)
  Reader.char quote
  pure (String.ofList pieces.flatten)

/-- A text. -/
def text : Reader String := textIn '"' <|> textIn '\''

/-! ## Names -/

/-- Signs and blanks beyond ASCII. -/
def signs : List Range := [
  (0x80, 0xA9), (0xAB, 0xB4), (0xB6, 0xB9), (0xBB, 0xBF), (0xD7, 0xD7), (0xF7, 0xF7),
  (0x2000, 0x206F), (0x20A0, 0x20CF), (0x2190, 0x2BFF), (0x3000, 0x3004), (0x3008, 0x3020),
  (0xD800, 0xF8FF), (0xFE00, 0xFE6F), (0xFEFF, 0xFEFF), (0xFFF0, 0xFFFF), (0x1F000, 0x1FAFF)]

/-- Whether a character may start a name. -/
def startsName (c : Char) : Bool :=
  c.isAlpha || c == '$' || c == '_' || (0x80 ≤ c.toNat && !Range.holds signs c)

/-- Whether a character may stand in a name. -/
def isInName (c : Char) : Bool :=
  startsName c || c.isDigit || c == '\u200C' || c == '\u200D' || c == '\u203F' || c == '\u2040'

/-- A character by its number. -/
def namedChar : Reader Char := do
  Reader.exactly ['\\', 'u']
  Radix.utf16 ['\\', 'u']

/-- A name without quotes. -/
def name : Reader String := do
  let c ← Reader.satisfying startsName <|> namedChar
  let cs ← Reader.many (Reader.satisfying isInName <|> namedChar)
  pure (String.ofList (c :: cs))

/-! ## Numbers -/

/-- The greatest number in hexadecimal. -/
def maxHexadecimal : Nat := 4294967295

/-- A decimal, as it is written. -/
def decimal : Reader (List Char) := do
  let whole ← Reader.run Decimal.isDigit
  if whole.head? = some '0' ∧ 1 < whole.length then Reader.refuse
  let part? ← Reader.optional (do
    Reader.char '.'
    Reader.run Decimal.isDigit)
  let part := part?.getD []
  if whole = [] ∧ part = [] then Reader.refuse
  let exponent ← Reader.optional (do
    let e ← Reader.satisfying fun c => c == 'e' || c == 'E'
    let sign ← Reader.optional (Reader.satisfying fun c => c == '+' || c == '-')
    let digits ← Reader.run1 Decimal.isDigit
    pure (e :: sign.toList ++ digits))
  pure (whole ++ (if part?.isSome then ['.'] else []) ++ part ++ exponent.getD [])

/-- A number in hexadecimal. -/
def hexadecimal : Reader Scalar := do
  Reader.char '0'
  let _ ← Reader.satisfying fun c => c == 'x' || c == 'X'
  let n := Radix.value 16 (← Reader.run1 (Radix.isDigit 16))
  if maxHexadecimal < n then Reader.refuse
  pure (.integer n)

/-- Whether a decimal has a point or an exponent. -/
def isFraction (digits : List Char) : Bool := digits.any fun c => c == '.' || c == 'e' || c == 'E'

/-- A number in decimal. -/
def decimalNumber (sign : Option Char) : Reader Scalar := do
  let digits ← decimal
  let all := sign.toList ++ digits
  if isFraction digits then
    match Binary64.read? all with
    | some x => if x.isInfinite then Reader.refuse else pure (.floating x)
    | none => Reader.refuse
  else
    match Integer64.read all with
    | .ok n => pure (.integer n)
    | .error _ => Reader.refuse

/-- A number as a word; such a word has no plus. -/
def wordNumber (sign : Option Char) : Reader Scalar := do
  if sign = some '+' then Reader.refuse
  (do
    Reader.exactly ['I', 'n', 'f', 'i', 'n', 'i', 't', 'y']
    pure (.floating (.infinite sign.isSome))) <|>
  (do
    Reader.exactly ['N', 'a', 'N']
    pure (.floating .nan))

/-- A number. -/
def number : Reader Scalar := do
  let sign ← Reader.optional (Reader.satisfying fun c => c == '+' || c == '-')
  wordNumber sign <|> (if sign.isNone then hexadecimal else Reader.refuse) <|> decimalNumber sign

/-! ## Values -/

/-- A value without parts. -/
def atom : Reader Scalar :=
  (do
    Reader.exactly ['n', 'u', 'l', 'l']
    pure .nothing) <|>
  (do
    Reader.exactly ['t', 'r', 'u', 'e']
    pure (.boolean true)) <|>
  (do
    Reader.exactly ['f', 'a', 'l', 's', 'e']
    pure (.boolean false)) <|>
  Scalar.text <$> text <|>
  number

/-- Items with commas between them, and maybe one behind them. -/
def list {α : Type} (opening closing : Char) (item : Reader α) : Reader (List α) := do
  mark opening
  let items ← Reader.separated (spaced item) (mark ',')
  if !items.isEmpty then
    let _ ← Reader.optional (mark ',')
  Reader.char closing
  pure items

/-- A field of an object. -/
def field (item : Reader Value) : Reader (String × Value) := do
  let key ← spaced (name <|> text)
  mark ':'
  let v ← item
  pure (key, v)

/-- A value with others nested in it to a depth. -/
def value : Nat → Reader Value
  | 0 => Reader.refuse
  | depth + 1 =>
      Value.ofScalar <$> atom <|>
      Value.sequence none <$> list '[' ']' (value depth) <|>
      (fun entries => Value.table none (Fields.ofList entries)) <$>
        list '\x7b' '\x7d' (field (value depth))

/-- The value of a text. -/
def read (s : List Char) : Option Value :=
  Reader.all? (do
    gap
    spaced (value (s.length + 1))) s

end StaticPreview.Settings.File.Json5
