/-
# StaticPreview.Target -- the two parts of a request target

A request target is a path, then a query after the first question mark.  What
follows a number sign is a fragment and belongs to neither.
-/
import StaticPreview.Pieces

namespace StaticPreview.Target

/-- The path of a target and its query, if it has one; an empty query counts. -/
def split (target : List Char) : List Char × Option (List Char) :=
  Pieces.cutAt '?' (Pieces.cutAt '#' target).1

/-- A path and an optional query as one target again. -/
def unsplit : List Char → Option (List Char) → List Char
  | path, none => path
  | path, some query => path ++ '?' :: query

theorem unsplit_cutAt (s : List Char) :
    unsplit (Pieces.cutAt '?' s).1 (Pieces.cutAt '?' s).2 = s := by
  induction s with
  | nil => rfl
  | cons c r ih =>
      by_cases h : c = '?'
      · simp [Pieces.cutAt, h, unsplit]
      · simp only [Pieces.cutAt, h, if_false]
        cases hq : (Pieces.cutAt '?' r).2 with
        | none => rw [hq] at ih; simpa [unsplit] using ih
        | some q => rw [hq] at ih; simpa [unsplit] using ih

/-- **Splitting a target without a fragment loses nothing.** -/
theorem unsplit_split {target : List Char} (h : '#' ∉ target) :
    unsplit (split target).1 (split target).2 = target := by
  rw [split, Pieces.cutAt_of_not_mem h]
  exact unsplit_cutAt target

end StaticPreview.Target
