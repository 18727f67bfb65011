/-
# StaticPreview.Number.Binary64.Reader -- doubles read from decimal texts

A text is an optional sign and a decimal: digits with at most one point among or
around them and an optional exponent.  It stands for the double nearest to its
exact value.  The words for the infinities and for no number at all are read in
any letter case.
-/
import StaticPreview.Number.Binary64
import StaticPreview.Text.Reader

namespace StaticPreview.Number.Binary64

open StaticPreview.Text

/-- An exponent with its sign. -/
def exponentPart : Reader Int := do
  let _ ← Reader.satisfying fun c => c == 'e' || c == 'E'
  let sign ← Reader.optional (Reader.satisfying fun c => c == '+' || c == '-')
  let digits ← Reader.run1 Decimal.isDigit
  let n : Int := Decimal.value digits
  pure (if sign = some '-' then -n else n)

/-- A decimal without a sign: its digits as one number, and the power of ten. -/
def decimalPart : Reader (Nat × Int) := do
  let whole ← Reader.run Decimal.isDigit
  let fraction ← Reader.optional (do
    Reader.char '.'
    Reader.run Decimal.isDigit)
  let fraction := fraction.getD []
  if whole = [] ∧ fraction = [] then Reader.refuse
  let exponent ← Reader.optional exponentPart
  pure (Decimal.value (whole ++ fraction), exponent.getD 0 - fraction.length)

/-- The lower case of an ASCII letter, and every other character as it is. -/
def lowerAscii (c : Char) : Char := if 'A' ≤ c ∧ c ≤ 'Z' then Char.ofNat (c.toNat + 32) else c

/-- The words for what is not finite, in lower case, with what they stand for. -/
def words : List (List Char × (Bool → Binary64)) := [
  (['i', 'n', 'f'], .infinite),
  (['i', 'n', 'f', 'i', 'n', 'i', 't', 'y'], .infinite),
  (['n', 'a', 'n'], fun _ => .nan)]

/-- The double that a text without a sign stands for, negated or not. -/
def readUnsigned? (negative : Bool) (s : List Char) : Option Binary64 :=
  match Reader.all? decimalPart s with
  | some (digits, exponent) => some (ofDecimal negative digits exponent)
  | none => (List.lookup (s.map lowerAscii) words).map (· negative)

/-- The double that a text stands for. -/
def read? : List Char → Option Binary64
  | '-' :: s => readUnsigned? true s
  | '+' :: s => readUnsigned? false s
  | s => readUnsigned? false s

end StaticPreview.Number.Binary64
