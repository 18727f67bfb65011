/-
# StaticPreview.Text.Decimal -- numbers in decimal digits

`digits` is the shortest decimal text of a number and `padded` the same with
zeros in front up to a width.  `value` reads digits back, so that
`value_digits` and `value_padded` hold for every number.
-/
namespace StaticPreview.Text.Decimal

/-- The digit of a value below ten. -/
def digit (d : Nat) : Char := Char.ofNat (0x30 + d)

/-- Whether a character is an ASCII digit. -/
def isDigit (c : Char) : Bool := '0' ≤ c && c ≤ '9'

/-- The value of an ASCII digit. -/
def digitValue (c : Char) : Nat := c.toNat - 0x30

/-- The decimal digits of a number. -/
def digits (n : Nat) : List Char :=
  if n < 10 then [digit n] else digits (n / 10) ++ [digit (n % 10)]
termination_by n

/-- The number that digits stand for. -/
def value (s : List Char) : Nat := s.foldl (fun n c => n * 10 + digitValue c) 0

/-- The decimal digits of a number, with zeros in front up to `width` of them. -/
def padded (width n : Nat) : List Char :=
  List.replicate (width - (digits n).length) '0' ++ digits n

/-- The decimal text of an integer, with a minus sign when it is negative. -/
def signed (n : Int) : List Char :=
  if n < 0 then '-' :: digits n.natAbs else digits n.natAbs

theorem digitValue_digit {d : Nat} (h : d < 10) : digitValue (digit d) = d := by
  have all : ∀ d, d < 10 → digitValue (digit d) = d := by decide
  exact all d h

theorem value_append_singleton (s : List Char) (c : Char) :
    value (s ++ [c]) = value s * 10 + digitValue c := by
  simp [value]

/-- **Digits read back as the number.** -/
theorem value_digits (n : Nat) : value (digits n) = n := by
  induction n using Nat.strongRecOn with
  | ind n ih =>
      rw [digits]
      split
      · simp [value, digitValue_digit, *]
      · rw [value_append_singleton, ih _ (by omega), digitValue_digit (by omega)]
        omega

theorem value_replicate_zero (k : Nat) (s : List Char) :
    value (List.replicate k '0' ++ s) = value s := by
  induction k with
  | zero => rfl
  | succ k ih =>
      rw [List.replicate_succ, List.cons_append]
      simpa [value, digitValue] using ih

theorem value_padded (width n : Nat) : value (padded width n) = n := by
  rw [padded, value_replicate_zero, value_digits]

end StaticPreview.Text.Decimal
