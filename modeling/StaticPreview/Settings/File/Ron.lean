/-
# StaticPreview.Settings.File.Ron -- settings written in RON

A value is a word, a number, a character, a text, a list in square brackets, a map in
braces, or a structure in parentheses: one with named fields is taken as a table, one
without names as a sequence, and one without anything in its parentheses as nothing.
The name of a structure does not matter.

Each list, map or structure counts twice towards the depth to which values may be
nested and each `Some` once (`maxDepth`).
-/
import StaticPreview.Number.Binary64.Reader
import StaticPreview.Number.Integer64
import StaticPreview.Settings.Value
import StaticPreview.Text.Radix

namespace StaticPreview.Settings.File.Ron

open StaticPreview.Number StaticPreview.Text

/-- How deep values may be nested. -/
def maxDepth : Nat := 128

/-! ## Blanks and comments -/

/-- Characters up to the end of a comment in signs, in which others may be nested. -/
def commentRest : Nat → List Char → Option (Unit × List Char)
  | 0, '*' :: '/' :: r => some ((), r)
  | depth + 1, '*' :: '/' :: r => commentRest depth r
  | depth, '/' :: '*' :: r => commentRest (depth + 1) r
  | depth, _ :: r => commentRest depth r
  | _, [] => none

/-- A comment. -/
def comment : Reader Unit :=
  (do
    Reader.exactly ['/', '/']
    let _ ← Reader.run (· != '\n')) <|>
  (do
    Reader.exactly ['/', '*']
    commentRest 0)

/-- Blanks, ends of lines and comments. -/
def gap : Reader Unit := do
  let _ ← Reader.many ((do
    let _ ← Reader.run1 fun c => c == ' ' || c == '\t' || c == '\n' || c == '\r') <|> comment)

/-- What a reader reads, and a gap behind it. -/
def spaced {α : Type} (r : Reader α) : Reader α := do
  let a ← r
  gap
  pure a

/-- A character, and a gap behind it. -/
def mark (c : Char) : Reader Unit := spaced (Reader.char c)

/-! ## Names -/

/-- Whether a character may stand in a name. -/
def isInName (c : Char) : Bool := c.isAlphanum || c == '_'

/-- Whether a character may stand in a name behind `r#`. -/
def isInRawName (c : Char) : Bool := isInName c || c == '.' || c == '+' || c == '-'

/-- A name behind `r#`. -/
def rawName : Reader (List Char) := do
  Reader.exactly ['r', '#']
  Reader.run1 isInRawName

/-- A name as it stands; it must not be the front of a text without escapes, nor go on
with what only names behind `r#` have. -/
def plainName : Reader (List Char) := do
  let c ← Reader.satisfying fun c => c.isAlpha || c == '_'
  let cs ← Reader.run isInName
  match ← Reader.peek? with
  | some d =>
      if isInRawName d || (c == 'r' && cs.isEmpty && (d == '"' || d == '#')) then Reader.refuse
      else pure (c :: cs)
  | none => pure (c :: cs)

/-- A name. -/
def name : Reader (List Char) := rawName <|> plainName

/-- A given word, which does not go on. -/
def word (w : List Char) : Reader Unit := do
  Reader.exactly w
  match ← Reader.peek? with
  | some c => if isInName c then Reader.refuse
  | none => pure ()

/-! ## Texts and characters -/

/-- A character by one to six hexadecimal digits in braces. -/
def code : Reader Char := do
  Reader.char '\x7b'
  let digits ← Reader.run1 (Radix.isDigit 16)
  Reader.char '\x7d'
  if 6 < digits.length then Reader.refuse
  match Radix.char? (Radix.value 16 digits) with
  | some c => pure c
  | none => Reader.refuse

/-- An escaped character. -/
def escape : Reader Char := do
  Reader.char '\\'
  match ← Reader.next with
  | '\'' => pure '\''
  | '"' => pure '"'
  | '\\' => pure '\\'
  | 'n' => pure '\n'
  | 'r' => pure '\r'
  | 't' => pure '\t'
  | '0' => pure '\x00'
  | 'x' => Char.ofNat <$> Radix.hexadecimal 2
  | 'u' => code
  | _ => Reader.refuse

/-- A text with escapes. -/
def escapedText : Reader String := do
  Reader.char '"'
  let cs ← Reader.many (Reader.satisfying (fun c => c != '"' && c != '\\') <|> escape)
  Reader.char '"'
  pure (String.ofList cs)

/-- Characters up to a closing mark. -/
def upTo (closing : List Char) : List Char → Option (List Char × List Char)
  | [] => none
  | c :: r =>
      if closing.isPrefixOf (c :: r) then some ([], (c :: r).drop closing.length)
      else (upTo closing r).map fun (cs, rest) => (c :: cs, rest)

/-- A text without escapes, within as many number signs as it likes. -/
def rawText : Reader String := do
  Reader.char 'r'
  let signs ← Reader.run (· == '#')
  Reader.char '"'
  String.ofList <$> upTo ('"' :: signs)

/-- A character within quotes. -/
def character : Reader String := do
  Reader.char '\''
  let c ← Reader.satisfying (fun c => c != '\'' && c != '\\') <|> escape
  Reader.char '\''
  pure (String.singleton c)

/-- A text. -/
def text : Reader String := escapedText <|> rawText <|> character

/-! ## Numbers -/

/-- Digits of a base with underscores among them, but not in front. -/
def grouped (base : Nat) : Reader Nat := do
  let c ← Reader.satisfying (Radix.isDigit base)
  let cs ← Reader.run fun c => Radix.isDigit 16 c || c == '_'
  let digits := (c :: cs).filter (· != '_')
  if !digits.all (Radix.isDigit base) then Reader.refuse
  pure (Radix.value base digits)

/-- A whole number, which takes all characters that a number could have. -/
def integer (sign : Option Char) : Reader Scalar := do
  let n ←
    (do
      Reader.exactly ['0', 'x']
      grouped 16) <|>
    (do
      Reader.exactly ['0', 'o']
      grouped 8) <|>
    (do
      Reader.exactly ['0', 'b']
      grouped 2) <|>
    grouped 10
  match ← Reader.peek? with
  | some '.' => Reader.refuse
  | _ => pure ()
  match Integer64.ofSize? (sign == some '-') n with
  | some n => pure (.integer n)
  | none =>
      if sign.isNone ∧ n ≤ Integer64.maxUnsigned then pure (.floating (Binary64.ofNat n))
      else Reader.refuse

/-- A number with a fraction or an exponent, or one that is too large. -/
def fraction (sign : Option Char) : Reader Scalar := do
  let digits ← Reader.run1 fun c =>
    Decimal.isDigit c || c == 'e' || c == 'E' || c == '.' || c == '+' || c == '-'
  match Binary64.read? (sign.toList ++ digits) with
  | some x => pure (.floating x)
  | none => Reader.refuse

/-- A number. -/
def number : Reader Scalar := do
  let sign ← Reader.optional (Reader.satisfying fun c => c == '+' || c == '-')
  if (← Reader.peek?) = some '_' then Reader.refuse
  integer sign <|> fraction sign

/-! ## Values -/

/-- A word for a value. -/
def wordValue : Reader Scalar :=
  (do
    word ['t', 'r', 'u', 'e']
    pure (.boolean true)) <|>
  (do
    word ['f', 'a', 'l', 's', 'e']
    pure (.boolean false)) <|>
  (do
    word ['N', 'o', 'n', 'e']
    pure .nothing) <|>
  (do
    Reader.exactly ['(', ')']
    pure .nothing) <|>
  (do
    word ['i', 'n', 'f']
    pure (.floating (.infinite false))) <|>
  (do
    word ['-', 'i', 'n', 'f']
    pure (.floating (.infinite true))) <|>
  (do
    word ['N', 'a', 'N']
    pure (.floating .nan))

/-- Items with commas between them, and maybe one behind them. -/
def list {α : Type} (opening closing : Char) (item : Reader α) : Reader (List α) := do
  mark opening
  let items ← Reader.separated (spaced item) (mark ',')
  if !items.isEmpty then
    let _ ← Reader.optional (mark ',')
  Reader.char closing
  pure items

/-- A name or a text with a value behind a colon. -/
def field (key : Reader String) (item : Reader Value) : Reader (String × Value) := do
  let key ← spaced key
  mark ':'
  let v ← item
  pure (key, v)

/-- A table of some fields. -/
def table (entries : List (String × Value)) : Value := .table none (Fields.ofList entries)

/-- A structure, with or without names of its fields. -/
def record (item : Reader Value) : Reader Value :=
  (do
    let entries ← list '(' ')' (field (String.ofList <$> name) item)
    if entries.isEmpty then Reader.refuse
    pure (table entries)) <|>
  Value.sequence none <$> list '(' ')' item

/-- A value whose parts are lists, maps and structures of items. -/
def compound (item : Reader Value) : Reader Value :=
  record item <|>
  Value.sequence none <$> list '[' ']' item <|>
  table <$> list '\x7b' '\x7d' (field text item) <|>
  (do
    let _ ← spaced name
    record item <|> pure Value.nothing)

/-- A value in `Some`. -/
def present (item : Reader Value) : Reader Value := do
  spaced (word ['S', 'o', 'm', 'e'])
  mark '('
  let v ← spaced item
  let _ ← Reader.optional (mark ',')
  Reader.char ')'
  pure v

/-- A value without parts. -/
def atom : Reader Value := Value.ofScalar <$> (wordValue <|> Scalar.text <$> text <|> number)

/-- Refuses where `Some` stands without a value. -/
def notPresent : Reader Unit := fun s =>
  match word ['S', 'o', 'm', 'e'] s with
  | some _ => none
  | none => some ((), s)

/-- A value with others nested in it to a depth. -/
def value : Nat → Reader Value
  | 0 => atom
  | 1 => atom <|> present (value 0) <|> (do
      notPresent
      compound Reader.refuse)
  | depth + 2 => atom <|> present (value (depth + 1)) <|> (do
      notPresent
      compound (value depth))

/-- The extensions that a file may ask for; none of them changes a value. -/
def extensions : List String :=
  ["unwrap_newtypes", "implicit_some", "unwrap_variant_newtypes"]

/-- Extensions that a file asks for. -/
def enabling : Reader Unit := do
  mark '#'
  mark '!'
  mark '['
  spaced (Reader.exactly ['e', 'n', 'a', 'b', 'l', 'e'])
  let names ← list '(' ')' name
  if names.isEmpty ∨ !names.all (fun n => extensions.contains (String.ofList n)) then Reader.refuse
  gap
  Reader.char ']'

/-- The value of a text. -/
def read : List Char → Option Value :=
  Reader.all? (do
    gap
    let _ ← Reader.many (spaced enabling)
    spaced (value maxDepth))

end StaticPreview.Settings.File.Ron
