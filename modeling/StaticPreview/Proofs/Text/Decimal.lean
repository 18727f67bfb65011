/-
# StaticPreview.Proofs.Text.Decimal -- how a number is written

The digits of a number are ASCII digits (`isDigit_of_mem_digits`), no more of them than
the number needs (`length_digits_le`), and a number that fits a width is written in
exactly that many (`length_padded`).  With `value_padded` that is all a reader of
digits has to know: what is read is the number, and where it ends.
-/
import StaticPreview.Text.Decimal

namespace StaticPreview.Text.Decimal

theorem isDigit_digit {d : Nat} (h : d < 10) : isDigit (digit d) = true := by
  have all : ∀ d, d < 10 → isDigit (digit d) = true := by decide
  exact all d h

theorem isDigit_of_mem_digits {n : Nat} {c : Char} (h : c ∈ digits n) : isDigit c = true := by
  induction n using Nat.strongRecOn with
  | ind n ih =>
      rw [digits] at h
      split at h
      · rw [List.mem_singleton.1 h]
        exact isDigit_digit (by assumption)
      · rcases List.mem_append.1 h with front | last
        · exact ih (n / 10) (by omega) front
        · rw [List.mem_singleton.1 last]
          exact isDigit_digit (by omega)

/-- **Everything that a number is written with is a digit.** -/
theorem isDigit_of_mem_padded {width n : Nat} {c : Char} (h : c ∈ padded width n) :
    isDigit c = true := by
  rcases List.mem_append.1 h with zero | digit
  · rw [List.eq_of_mem_replicate zero]
    decide
  · exact isDigit_of_mem_digits digit

theorem digits_ne_nil (n : Nat) : digits n ≠ [] := by
  rw [digits]
  split <;> simp

/-- **No zero stands in front of the digits of a number.** -/
theorem head?_digits_ne {n : Nat} (positive : 0 < n) : (digits n).head? ≠ some '0' := by
  induction n using Nat.strongRecOn with
  | ind n ih =>
      rw [digits]
      split
      · rename_i small
        have all : ∀ d, d < 10 → 0 < d → [digit d].head? ≠ some '0' := by decide
        exact all n small positive
      · obtain ⟨d, ds, written⟩ := List.exists_cons_of_ne_nil (digits_ne_nil (n / 10))
        have front := ih (n / 10) (by omega) (by omega)
        rw [written] at front ⊢
        exact front

/-- What a number is written with begins with a digit. -/
theorem isDigit_of_head?_padded {width n : Nat} {rest : List Char} {c : Char}
    (h : (padded width n ++ rest).head? = some c) : isDigit c = true := by
  have filled : padded width n ≠ [] := by
    intro empty
    exact digits_ne_nil n (List.append_eq_nil_iff.1 empty).2
  obtain ⟨d, ds, written⟩ := List.exists_cons_of_ne_nil filled
  rw [written] at h
  obtain rfl : d = c := Option.some.inj h
  apply isDigit_of_mem_padded
  rw [written]
  exact List.mem_cons_self

/-- A number below a power of ten has no more digits than that power has zeros. -/
theorem length_digits_le {width n : Nat} (positive : 0 < width) (h : n < Nat.pow 10 width) :
    (digits n).length ≤ width := by
  induction width generalizing n with
  | zero => exact absurd positive (Nat.lt_irrefl 0)
  | succ width ih =>
      have step : Nat.pow 10 (width + 1) = Nat.pow 10 width * 10 := rfl
      rw [step] at h
      rw [digits]
      split
      · exact positive
      · rename_i large
        have more : 0 < width := by
          rcases Nat.eq_zero_or_pos width with none | some
          · subst none
            exact absurd h large
          · exact some
        have fewer : n / 10 < Nat.pow 10 width := by omega
        rw [List.length_append]
        exact Nat.add_le_add_right (ih more fewer) 1

/-- **A number that fits a width is written in exactly that many digits.** -/
theorem length_padded {width n : Nat} (positive : 0 < width) (h : n < Nat.pow 10 width) :
    (padded width n).length = width := by
  have fits := length_digits_le positive h
  rw [padded, List.length_append, List.length_replicate]
  omega

end StaticPreview.Text.Decimal
