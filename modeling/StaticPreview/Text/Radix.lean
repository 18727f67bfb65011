/-
# StaticPreview.Text.Radix -- digits of other bases, and characters by their number

Hexadecimal digits are taken in either case.  A number stands for a character when
it is one of Unicode; two numbers in the range of surrogates, a leading and a
trailing one, stand for one character together (`surrogates?`).
-/
import StaticPreview.Text.Reader
import StaticPreview.Text.Decimal

namespace StaticPreview.Text.Radix

/-- The value of a digit, letters counting on from ten. -/
def digitValue (c : Char) : Nat :=
  if 'a' ≤ c ∧ c ≤ 'z' then c.toNat - 0x61 + 10
  else if 'A' ≤ c ∧ c ≤ 'Z' then c.toNat - 0x41 + 10
  else Decimal.digitValue c

/-- Whether a character is a digit of a base. -/
def isDigit (base : Nat) (c : Char) : Bool :=
  (Decimal.isDigit c || c.isAlpha) && decide (digitValue c < base)

/-- The number that digits of a base stand for. -/
def value (base : Nat) (s : List Char) : Nat := s.foldl (fun n c => n * base + digitValue c) 0

/-- The character of a number. -/
def char? (n : Nat) : Option Char := if n.isValidChar then some (Char.ofNat n) else none

/-- Whether a number stands for the first half of a character. -/
def isLeading (n : Nat) : Bool := 0xD800 ≤ n && n < 0xDC00

/-- Whether a number stands for the second half of a character. -/
def isTrailing (n : Nat) : Bool := 0xDC00 ≤ n && n < 0xE000

/-- The character of two halves. -/
def surrogates? (leading trailing : Nat) : Option Char :=
  if isLeading leading && isTrailing trailing then
    char? (0x10000 + (leading - 0xD800) * 0x400 + (trailing - 0xDC00))
  else none

/-- The number of some hexadecimal digits. -/
def hexadecimal (count : Nat) : Reader Nat := value 16 <$> Reader.exactRun (isDigit 16) count

/-- The character of four hexadecimal digits, or of twice four with `mark` between
them. -/
def utf16 (mark : List Char) : Reader Char := do
  let n ← hexadecimal 4
  let c? ←
    if isLeading n then do
      Reader.exactly mark
      let m ← hexadecimal 4
      pure (surrogates? n m)
    else pure (char? n)
  match c? with
  | some c => pure c
  | none => Reader.refuse

end StaticPreview.Text.Radix
