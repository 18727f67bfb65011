/-
# StaticPreview.Proofs.Number.Integer64 -- whole numbers, read and written

A number that fits is read back from its digits (`read_digits`, `read_signed`): reading
keeps what was read so far below the bound, since more digits never make a number smaller.
What is read as a number is written as it (`isNumeral_of_read`), so what is no number can
often be told from its first character, which has to be a digit or a sign
(`toNat_lt_of_read`), or from any other one (`isDigit_of_mem_of_read`).
-/
import StaticPreview.Number.Integer64
import StaticPreview.Proofs.Text.Decimal

namespace StaticPreview.Number.Integer64

open StaticPreview.Text

/-! ## What is read -/

/-- A number followed by digits. -/
def extended (n : Nat) (s : List Char) : Nat :=
  s.foldl (fun n c => n * 10 + Decimal.digitValue c) n

theorem le_extended (n : Nat) (s : List Char) : n ≤ extended n s := by
  induction s generalizing n with
  | nil => exact Nat.le_refl n
  | cons c s ih =>
      have rest : n * 10 + Decimal.digitValue c ≤ extended n (c :: s) := ih _
      omega

theorem of_readDigits {bound n m : Nat} {overflow : Refusal} {s : List Char}
    (read : readDigits bound overflow n s = .ok m) :
    (∀ c ∈ s, Decimal.isDigit c = true) ∧ m = extended n s := by
  induction s generalizing n with
  | nil =>
      obtain rfl : n = m := Except.ok.inj read
      exact ⟨by simp, rfl⟩
  | cons c s ih =>
      rw [readDigits] at read
      split at read
      · cases read
      · rename_i digit
        dsimp only at read
        split at read
        · cases read
        · obtain ⟨digits, rfl⟩ := ih read
          refine ⟨?_, rfl⟩
          intro d member
          rcases List.mem_cons.1 member with rfl | later
          · simpa using digit
          · exact digits d later

/-- A whole number as it is written: digits, with a sign or without. -/
inductive IsNumeral : List Char → Int → Prop
  | plain {s : List Char} (filled : s ≠ []) (digits : ∀ c ∈ s, Decimal.isDigit c = true) :
      IsNumeral s (Decimal.value s)
  | plus {s : List Char} (filled : s ≠ []) (digits : ∀ c ∈ s, Decimal.isDigit c = true) :
      IsNumeral ('+' :: s) (Decimal.value s)
  | minus {s : List Char} (filled : s ≠ []) (digits : ∀ c ∈ s, Decimal.isDigit c = true) :
      IsNumeral ('-' :: s) (-(Decimal.value s : Int))

theorem of_readSigned {negative : Bool} {s : List Char} {n : Int}
    (read : readSigned negative s = .ok n) : (∀ c ∈ s, Decimal.isDigit c = true) ∧
      n = if negative then -(Decimal.value s : Int) else Decimal.value s := by
  cases negative with
  | true =>
      cases size : readDigits minSize .tooSmall 0 s with
      | error e => simp [readSigned, size] at read
      | ok m =>
          obtain ⟨digits, rfl⟩ := of_readDigits size
          simp only [readSigned, size, if_true, Except.ok.injEq] at read
          exact ⟨digits, read.symm⟩
  | false =>
      cases size : readDigits maxValue .tooLarge 0 s with
      | error e => simp [readSigned, size] at read
      | ok m =>
          obtain ⟨digits, rfl⟩ := of_readDigits size
          simp only [readSigned, size, Bool.false_eq_true, if_false, Except.ok.injEq] at read
          exact ⟨digits, read.symm⟩

/-- **What is read as a number is written as that number.** -/
theorem isNumeral_of_read {s : List Char} {n : Int} (number : Integer64.read s = .ok n) :
    IsNumeral s n := by
  unfold Integer64.read at number
  split at number
  · cases number
  · cases number
  · cases number
  · rename_i r filled
    obtain ⟨digits, rfl⟩ := of_readSigned number
    exact .plus (fun empty => filled (by rw [empty])) digits
  · rename_i r filled
    obtain ⟨digits, rfl⟩ := of_readSigned number
    exact .minus (fun empty => filled (by rw [empty])) digits
  · rename_i empty _ _ _ _
    obtain ⟨digits, rfl⟩ := of_readSigned number
    exact .plain empty digits

theorem toNat_lt_of_isDigit {c : Char} (digit : Decimal.isDigit c = true) : c.toNat < 0x41 := by
  simp only [Decimal.isDigit, Bool.and_eq_true, decide_eq_true_eq] at digit
  have high : c.toNat ≤ '9'.toNat := digit.2
  have bound : '9'.toNat = 0x39 := rfl
  omega

/-- A number begins with a digit or a sign. -/
theorem toNat_lt_of_read {s : List Char} {n : Int} (number : Integer64.read s = .ok n) :
    ∃ c r, s = c :: r ∧ c.toNat < 0x41 := by
  cases isNumeral_of_read number with
  | plain filled digits =>
      obtain ⟨c, r, rfl⟩ := List.exists_cons_of_ne_nil filled
      exact ⟨c, r, rfl, toNat_lt_of_isDigit (digits c List.mem_cons_self)⟩
  | plus | minus => exact ⟨_, _, rfl, by decide⟩

/-- A number is made of digits and a sign. -/
theorem isDigit_of_mem_of_read {s : List Char} {n : Int} (number : Integer64.read s = .ok n) :
    ∀ c ∈ s, Decimal.isDigit c = true ∨ c = '+' ∨ c = '-' := by
  intro c member
  cases isNumeral_of_read number with
  | plain filled digits => exact Or.inl (digits c member)
  | plus filled digits =>
      rcases List.mem_cons.1 member with sign | later
      · exact Or.inr (Or.inl sign)
      · exact Or.inl (digits c later)
  | minus filled digits =>
      rcases List.mem_cons.1 member with sign | later
      · exact Or.inr (Or.inr sign)
      · exact Or.inl (digits c later)

/-! ## Digits -/

theorem read_of_no_sign {c : Char} (plus : c ≠ '+') (minus : c ≠ '-') (r : List Char) :
    Integer64.read (c :: r) = readSigned false (c :: r) := by
  rw [Integer64.read]
  · simp
  · simp [plus]
  · simp [minus]
  · simp [plus]
  · simp [minus]

/-- Digits are read as the number that they make, when it is within the bound. -/
theorem readDigits_eq {bound n : Nat} {overflow : Refusal} {s : List Char}
    (digits : ∀ c ∈ s, Decimal.isDigit c = true) (small : extended n s ≤ bound) :
    readDigits bound overflow n s = .ok (extended n s) := by
  induction s generalizing n with
  | nil => rfl
  | cons c s ih =>
      have digit := digits c List.mem_cons_self
      have within : n * 10 + Decimal.digitValue c ≤ bound :=
        Nat.le_trans (le_extended _ s) small
      rw [readDigits, digit]
      simp only [Bool.not_true, Bool.false_eq_true, if_false]
      rw [if_neg (Nat.not_lt.2 within)]
      exact ih (fun d member => digits d (List.mem_cons_of_mem c member)) small

/-- **A number that fits is read back from its digits.** -/
theorem read_digits {n : Nat} (small : n ≤ maxValue) : read (Decimal.digits n) = .ok n := by
  have whole : extended 0 (Decimal.digits n) = n := Decimal.value_digits n
  have digits : ∀ c ∈ Decimal.digits n, Decimal.isDigit c = true :=
    fun c => Decimal.isDigit_of_mem_digits
  obtain ⟨c, r, shape⟩ := List.exists_cons_of_ne_nil (Decimal.digits_ne_nil n)
  have digit : Decimal.isDigit c = true := digits c (shape ▸ List.mem_cons_self)
  have plus : c ≠ '+' := by
    rintro rfl
    exact absurd digit (by decide)
  have minus : c ≠ '-' := by
    rintro rfl
    exact absurd digit (by decide)
  have fits : extended 0 (Decimal.digits n) ≤ maxValue := by rwa [whole]
  have unsigned : readDigits maxValue .tooLarge 0 (Decimal.digits n) = _ :=
    readDigits_eq digits fits
  rw [shape, read_of_no_sign plus minus, ← shape, readSigned, unsigned, whole]
  rfl

theorem read_minus {c : Char} (r : List Char) :
    Integer64.read ('-' :: c :: r) = readSigned true (c :: r) := by
  rw [Integer64.read]
  simp

/-- **So is one with a sign.** -/
theorem read_signed {n : Int} (low : -(minSize : Int) ≤ n) (high : n ≤ maxValue) :
    read (Decimal.signed n) = .ok n := by
  rw [Decimal.signed]
  split
  · have whole : extended 0 (Decimal.digits n.natAbs) = n.natAbs := Decimal.value_digits _
    have digits : ∀ c ∈ Decimal.digits n.natAbs, Decimal.isDigit c = true :=
      fun c => Decimal.isDigit_of_mem_digits
    have fits : extended 0 (Decimal.digits n.natAbs) ≤ minSize := by omega
    have unsigned : readDigits minSize .tooSmall 0 (Decimal.digits n.natAbs) = _ :=
      readDigits_eq digits fits
    obtain ⟨c, r, shape⟩ := List.exists_cons_of_ne_nil (Decimal.digits_ne_nil n.natAbs)
    rw [shape, read_minus, ← shape, readSigned, unsigned, whole]
    have negated : -(n.natAbs : Int) = n := by omega
    simp only [if_true, negated]
  · have size : (n.natAbs : Int) = n := by omega
    rw [read_digits (by omega), size]

end StaticPreview.Number.Integer64
