/-
# StaticPreview.Text.Range -- ranges of code points

A character property is a short list of closed ranges; `Range.holds` asks
whether one of them has the character.
-/
namespace StaticPreview.Text

/-- A closed range of code points, its first and its last. -/
abbrev Range := Nat × Nat

/-- Whether one of the ranges has the character. -/
def Range.holds (ranges : List Range) (c : Char) : Bool :=
  ranges.any fun r => r.1 ≤ c.toNat && c.toNat ≤ r.2

end StaticPreview.Text
