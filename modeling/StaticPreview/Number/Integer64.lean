/-
# StaticPreview.Number.Integer64 -- whole numbers of 64 bits in decimal

A number is an optional sign and at least one decimal digit, and must lie between
`-2^63` and `2^63 - 1`.  It is read from the left, and the first thing that is
wrong with it is the reason why it is refused.
-/
import StaticPreview.Text.Decimal

namespace StaticPreview.Number.Integer64

open StaticPreview.Text

/-- Why a text is no number. -/
inductive Refusal where
  | empty
  | digit
  | tooLarge
  | tooSmall
  deriving DecidableEq, Repr

/-- The text of a refusal. -/
def Refusal.message : Refusal → String
  | .empty => "cannot parse integer from empty string"
  | .digit => "invalid digit found in string"
  | .tooLarge => "number too large to fit in target type"
  | .tooSmall => "number too small to fit in target type"

/-- The greatest number. -/
def maxValue : Nat := 9223372036854775807

/-- The greatest number of 64 bits without a sign. -/
def maxUnsigned : Nat := 18446744073709551615

/-- The size of the least number. -/
def minSize : Nat := 9223372036854775808

/-- The number of a size and a sign, if it is one of 64 bits. -/
def ofSize? (negative : Bool) (size : Nat) : Option Int :=
  if negative then if size ≤ minSize then some (-(size : Int)) else none
  else if size ≤ maxValue then some size else none

/-- Digits behind a number already read, which must not grow over `bound`. -/
def readDigits (bound : Nat) (overflow : Refusal) : Nat → List Char → Except Refusal Nat
  | n, [] => .ok n
  | n, c :: r =>
      if !Decimal.isDigit c then .error .digit
      else
        let n := n * 10 + Decimal.digitValue c
        if bound < n then .error overflow else readDigits bound overflow n r

/-- The number of some digits with a sign. -/
def readSigned (negative : Bool) (s : List Char) : Except Refusal Int :=
  if negative then
    match readDigits minSize .tooSmall 0 s with
    | .ok n => .ok (-(n : Int))
    | .error e => .error e
  else
    match readDigits maxValue .tooLarge 0 s with
    | .ok n => .ok n
    | .error e => .error e

/-- The number that a text stands for. -/
def read : List Char → Except Refusal Int
  | [] => .error .empty
  | ['+'] => .error .digit
  | ['-'] => .error .digit
  | '+' :: r => readSigned false r
  | '-' :: r => readSigned true r
  | s => readSigned false s

theorem readDigits_le {bound n m : Nat} {overflow : Refusal} {s : List Char} (hn : n ≤ bound)
    (h : readDigits bound overflow n s = .ok m) : m ≤ bound := by
  induction s generalizing n with
  | nil =>
      simp only [readDigits, Except.ok.injEq] at h
      omega
  | cons c r ih =>
      simp only [readDigits] at h
      split at h
      · simp at h
      · split at h
        · simp at h
        · exact ih (by omega) h

theorem readSigned_bounds {negative : Bool} {s : List Char} {n : Int}
    (h : readSigned negative s = .ok n) : -(minSize : Int) ≤ n ∧ n ≤ maxValue := by
  cases negative with
  | true =>
      cases hs : readDigits minSize .tooSmall 0 s with
      | error e => simp [readSigned, hs] at h
      | ok m =>
          have := readDigits_le (by simp [minSize]) hs
          simp only [readSigned, hs, if_true, Except.ok.injEq] at h
          simp only [minSize, maxValue] at this ⊢
          omega
  | false =>
      cases hs : readDigits maxValue .tooLarge 0 s with
      | error e => simp [readSigned, hs] at h
      | ok m =>
          have := readDigits_le (by simp [maxValue]) hs
          simp only [readSigned, hs, Bool.false_eq_true, if_false, Except.ok.injEq] at h
          simp only [minSize, maxValue] at this ⊢
          omega

/-- **What is read has 64 bits.** -/
theorem read_bounds {s : List Char} {n : Int} (h : read s = .ok n) :
    -(minSize : Int) ≤ n ∧ n ≤ maxValue := by
  unfold read at h
  split at h
  · simp at h
  · simp at h
  · simp at h
  · exact readSigned_bounds h
  · exact readSigned_bounds h
  · exact readSigned_bounds h

end StaticPreview.Number.Integer64
