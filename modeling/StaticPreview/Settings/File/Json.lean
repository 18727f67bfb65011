/-
# StaticPreview.Settings.File.Json -- settings written in JSON

Values may be nested 127 deep (`maxDepth`).  Of the values of a repeated key the last
one counts.  A whole number of 64 bits with a sign is kept as it is, and every other
number is taken as a double.

That double is not always the nearest one: only as many digits as fit in 64 bits
count, and the number they stand for is multiplied or divided by a power of ten,
rounding each time (`scale`).  A number that grows over all doubles is refused.
-/
import StaticPreview.Number.Binary64
import StaticPreview.Number.Integer64
import StaticPreview.Settings.Value
import StaticPreview.Text.Radix

namespace StaticPreview.Settings.File.Json

open StaticPreview.Number StaticPreview.Text

/-- How deep values may be nested. -/
def maxDepth : Nat := 127

/-- Blanks and ends of lines. -/
def blank : Reader Unit := do
  let _ ← Reader.run fun c => c == ' ' || c == '\t' || c == '\n' || c == '\r'

/-- What a reader reads, and blanks behind it. -/
def spaced {α : Type} (r : Reader α) : Reader α := do
  let a ← r
  blank
  pure a

/-- A character, and blanks behind it. -/
def mark (c : Char) : Reader Unit := spaced (Reader.char c)

/-! ## Texts -/

/-- Whether a character stands for itself in a text. -/
def isBasic (c : Char) : Bool := ' ' ≤ c && c != '"' && c != '\\'

/-- An escaped character. -/
def escape : Reader Char := do
  Reader.char '\\'
  match ← Reader.next with
  | '"' => pure '"'
  | '\\' => pure '\\'
  | '/' => pure '/'
  | 'b' => pure '\x08'
  | 'f' => pure '\x0c'
  | 'n' => pure '\n'
  | 'r' => pure '\r'
  | 't' => pure '\t'
  | 'u' => Radix.utf16 ['\\', 'u']
  | _ => Reader.refuse

/-- A text. -/
def text : Reader String := do
  Reader.char '"'
  let cs ← Reader.many (Reader.satisfying isBasic <|> escape)
  Reader.char '"'
  pure (String.ofList cs)

/-! ## Numbers -/

/-- The greatest number that digits are gathered in. -/
def maxGathered : Nat := Integer64.maxUnsigned

/-- The greatest number that an exponent is gathered in. -/
def maxExponent : Nat := 2147483647

/-- Digits behind a number as long as all fit, how many they are, and the digits
that are left. -/
def gather (bound : Nat) : Nat → List Char → Nat × Nat × List Char
  | n, [] => (n, 0, [])
  | n, c :: r =>
      let more := n * 10 + Decimal.digitValue c
      if bound < more then (n, 0, c :: r)
      else
        let (all, count, left) := gather bound more r
        (all, count + 1, left)

/-- The greatest power of ten that a double is multiplied or divided by at once. -/
def maxPower : Nat := 308

/-- The double nearest to a power of ten. -/
def power (k : Nat) : Binary64 := Binary64.ofNat (Binary64.tenTo k)

/-- A double divided by a power of ten, in steps. -/
def shrink : Nat → Binary64 → Nat → Binary64
  | 0, x, _ => x
  | steps + 1, x, k =>
      if k ≤ maxPower then x.div (power k)
      else if x.isZero then x
      else shrink steps (x.div (power maxPower)) (k - maxPower)

/-- A number times a power of ten, if that is not too large. -/
def scale (n : Nat) (exponent : Int) : Option Binary64 :=
  let x := Binary64.ofNat n
  if exponent < 0 then some (shrink 4 x exponent.natAbs)
  else if exponent ≤ maxPower then
    let y := x.mul (power exponent.toNat)
    if y.isInfinite then none else some y
  else if x.isZero then some x
  else none

/-- The digits of a whole number: no zero in front of others. -/
def wholeDigits : Reader (List Char) := do
  let digits ← Reader.run1 Decimal.isDigit
  if digits.head? = some '0' ∧ 1 < digits.length then Reader.refuse
  pure digits

/-- An exponent: its sign and its digits. -/
def exponent : Reader (Bool × List Char) := do
  let _ ← Reader.satisfying fun c => c == 'e' || c == 'E'
  let sign ← Reader.optional (Reader.satisfying fun c => c == '+' || c == '-')
  let digits ← Reader.run1 Decimal.isDigit
  pure (sign == some '-', digits)

/-- The size of a number that is not whole, or too large for one, of its digits
before and behind the point and its exponent. -/
def measure (whole part : List Char) (exponent : Option (Bool × List Char)) : Option Binary64 :=
  let (n, _, left) := gather maxGathered 0 whole
  let (n, count, _) := gather maxGathered n part
  let shift : Int := (left.length : Int) - count
  match exponent with
  | none => scale n shift
  | some (negative, digits) =>
      match gather maxExponent 0 digits with
      | (k, _, []) => scale n (if negative then shift - k else shift + k)
      | _ => if n ≠ 0 ∧ ¬negative then none else some (Binary64.ofNat 0)

/-- A number. -/
def number : Reader Scalar := do
  let sign ← Reader.optional (Reader.char '-')
  let negative := sign.isSome
  let whole ← wholeDigits
  let part? ← Reader.optional (do
    Reader.char '.'
    Reader.run1 Decimal.isDigit)
  let exponent? ← Reader.optional exponent
  let size := Decimal.value whole
  let whole? := if part? = none ∧ exponent? = none ∧ ¬(negative ∧ size = 0) then
    Integer64.ofSize? negative size else none
  match whole? with
  | some n => pure (.integer n)
  | none =>
      match measure whole (part?.getD []) exponent? with
      | some x => pure (.floating (if negative then x.neg else x))
      | none => Reader.refuse

/-! ## Values -/

/-- A value without parts. -/
def atom : Reader Scalar :=
  Scalar.text <$> text <|>
  number <|>
  (do
    Reader.exactly ['n', 'u', 'l', 'l']
    pure .nothing) <|>
  (do
    Reader.exactly ['t', 'r', 'u', 'e']
    pure (.boolean true)) <|>
  (do
    Reader.exactly ['f', 'a', 'l', 's', 'e']
    pure (.boolean false))

/-- An array of items. -/
def array (item : Reader Value) : Reader Value := do
  mark '['
  let items ← Reader.separated (spaced item) (mark ',')
  Reader.char ']'
  pure (.sequence none items)

/-- An object whose fields have items as their values. -/
def object (item : Reader Value) : Reader Value := do
  mark '\x7b'
  let entries ← Reader.separated (do
    let key ← spaced text
    mark ':'
    let v ← spaced item
    pure (key, v)) (mark ',')
  Reader.char '\x7d'
  pure (.table none (Fields.ofList entries))

/-- A value with others nested in it to a depth. -/
def value : Nat → Reader Value
  | 0 => Value.ofScalar <$> atom
  | depth + 1 => Value.ofScalar <$> atom <|> array (value depth) <|> object (value depth)

/-- The value of a text. -/
def read : List Char → Option Value :=
  Reader.all? (do
    blank
    spaced (value maxDepth))

end StaticPreview.Settings.File.Json
