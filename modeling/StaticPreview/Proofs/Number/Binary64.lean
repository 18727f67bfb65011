/-
# StaticPreview.Proofs.Number.Binary64 -- what a text that reads as a double is made of

A double is written with digits, a point, signs and the letter of the exponent, or by one of
a few words.  None of these holds a comma: `comma_not_mem_of_read?`.
-/
import StaticPreview.Number.Binary64.Reader
import StaticPreview.Proofs.Text.Reader

namespace StaticPreview.Number.Binary64

open StaticPreview.Text

/-- Whether a character can stand in a decimal. -/
def isDecimalChar (c : Char) : Bool :=
  Decimal.isDigit c || c ∈ ['.', 'e', 'E', '+', '-']

theorem isDecimalChar_of_isDigit (c : Char) (digit : Decimal.isDigit c = true) :
    isDecimalChar c = true := by
  simp [isDecimalChar, digit]

theorem within_exponentPart : Reader.Within isDecimalChar exponentPart := by
  refine Reader.within_bind (Reader.within_satisfying ?_) fun _ => Reader.within_bind
    (Reader.within_optional (Reader.within_satisfying ?_)) fun _ => Reader.within_bind
      (Reader.within_run1 isDecimalChar_of_isDigit) fun _ => Reader.within_pure _
  · intro c letter
    rcases Bool.or_eq_true_iff.1 letter with lower | upper
    · rw [eq_of_beq lower]
      decide
    · rw [eq_of_beq upper]
      decide
  · intro c sign
    rcases Bool.or_eq_true_iff.1 sign with plus | minus
    · rw [eq_of_beq plus]
      decide
    · rw [eq_of_beq minus]
      decide

theorem within_decimalPart : Reader.Within isDecimalChar decimalPart := by
  refine Reader.within_bind (Reader.within_run isDecimalChar_of_isDigit) fun whole =>
    Reader.within_bind (Reader.within_optional (Reader.within_bind (Reader.within_char (by decide))
      fun _ => Reader.within_run isDecimalChar_of_isDigit)) fun fraction => ?_
  have exponent : Reader.Within isDecimalChar (Reader.optional exponentPart) :=
    Reader.within_optional within_exponentPart
  dsimp only
  split
  · exact Reader.within_bind Reader.within_refuse fun _ => Reader.within_bind exponent
      fun _ => Reader.within_pure _
  · exact Reader.within_bind exponent fun _ => Reader.within_pure _

theorem comma_not_mem_of_readUnsigned? {negative : Bool} {s : List Char} {x : Binary64}
    (read : readUnsigned? negative s = some x) : ',' ∉ s := by
  intro comma
  unfold readUnsigned? at read
  split at read
  · rename_i decimal
    have inside := Reader.forall_mem_of_all? within_decimalPart decimal ',' comma
    exact absurd inside (by decide)
  · obtain ⟨f, word, -⟩ := Option.map_eq_some_iff.1 read
    have lowered : ',' ∈ s.map lowerAscii := List.mem_map.2 ⟨',', comma, by decide⟩
    obtain ⟨front, behind, entries, -⟩ := List.lookup_eq_some_iff.1 word
    have member : (s.map lowerAscii, f) ∈ words := by
      rw [entries]
      simp
    simp only [words, List.mem_cons, List.not_mem_nil, or_false, Prod.mk.injEq] at member
    rcases member with ⟨same, -⟩ | ⟨same, -⟩ | ⟨same, -⟩ <;> rw [same] at lowered <;>
      exact absurd lowered (by decide)

/-- **There is no comma in a double.** -/
theorem comma_not_mem_of_read? {s : List Char} {x : Binary64} (read : read? s = some x) :
    ',' ∉ s := by
  unfold read? at read
  split at read
  · simpa using comma_not_mem_of_readUnsigned? read
  · simpa using comma_not_mem_of_readUnsigned? read
  · exact comma_not_mem_of_readUnsigned? read

end StaticPreview.Number.Binary64
