/-
# StaticPreview.Proofs.Target.Slash -- what a solidus parts in a target

A solidus is no part of an escape, so reading never reaches across one
(`decode_append_slash`).

So a path that ends in a solidus and one that does not come apart into the same
segments but for an empty one at the end, which means nothing (`settle_split_slash`);
and what stands behind the last solidus of a path is placed behind the segments of the
path before it, or means nothing (`settle_append_singleton`).

A target with its parts put together again is cut into the same parts
(`split_unsplit`), also when its path got longer by what begins neither a query nor a
fragment.
-/
import StaticPreview.Proofs.Target.Resolve
import StaticPreview.Proofs.Target.Separator

namespace StaticPreview.Target

open StaticPreview.Text

/-! ## Reading -/

namespace Percent

theorem decode_append_slash (s t : List Char) :
    decode (s ++ '/' :: t) = decode s ++ '/' :: decode t :=
  decode_append_of_not_isEscapeChar (by decide) s t

end Percent

/-! ## Segments -/

theorem settle_append_singleton (segments : List (List Char)) (segment : List Char) :
    settle (segments ++ [segment]) =
      if segment = ['.', '.'] then (settle segments).dropLast
      else if isEntry segment then settle segments ++ [segment]
      else settle segments := by
  have last : segments.foldl place [] = (settle segments).reverse := by simp [settle]
  have step : settle (segments ++ [segment]) =
      (place (settle segments).reverse segment).reverse := by
    rw [settle, List.foldl_append, last]
    rfl
  rw [step, place]
  split
  · simp
  · split <;> simp

/-- A segment that means nothing: an empty one, a step to where one is, and one that is left
out for a backslash or a zero in it. -/
def IsSilent (segment : List Char) : Prop :=
  segment = [] ∨ segment = ['.'] ∨ '\\' ∈ segment ∨ '\x00' ∈ segment

/-- What means nothing neither goes up nor down. -/
theorem not_entry_of_silent {segment : List Char} (silent : IsSilent segment) :
    segment ≠ ['.', '.'] ∧ ¬ isEntry segment = true := by
  refine ⟨?_, ?_⟩
  · rintro rfl
    simp [IsSilent] at silent
  · rw [isEntry_iff]
    rintro ⟨filled, away, -, noBackslash, noZero⟩
    rcases silent with empty | here | backslash | zero
    · exact filled empty
    · exact away here
    · exact noBackslash backslash
    · exact noZero zero

theorem settle_append_silent {segment : List Char} (silent : IsSilent segment)
    (segments : List (List Char)) : settle (segments ++ [segment]) = settle segments := by
  obtain ⟨down, noEntry⟩ := not_entry_of_silent silent
  rw [settle_append_singleton, if_neg down, if_neg noEntry]

/-- An empty segment means nothing. -/
theorem settle_append_nil (segments : List (List Char)) :
    settle (segments ++ [[]]) = settle segments :=
  settle_append_silent (Or.inl rfl) segments

theorem settle_append_entry {segment : List Char} (entry : isEntry segment = true)
    (segments : List (List Char)) :
    settle (segments ++ [segment]) = settle segments ++ [segment] := by
  have down : ¬ segment = ['.', '.'] := ((isEntry_iff segment).1 entry).2.2.1
  rw [settle_append_singleton, if_neg down, if_pos entry]

/-- A segment with a backslash means nothing. -/
theorem settle_append_backslash {segment : List Char} (member : '\\' ∈ segment)
    (segments : List (List Char)) : settle (segments ++ [segment]) = settle segments :=
  settle_append_silent (Or.inr (Or.inr (Or.inl member))) segments

/-- The names of a path that ends in a solidus are those of the path before it. -/
theorem settle_split_slash (s : List Char) :
    settle (Pieces.split '/' (s ++ ['/'])) = settle (Pieces.split '/' s) := by
  have empty : Pieces.split '/' ([] : List Char) = [[]] := rfl
  rw [Pieces.split_append_cons, empty, settle_append_nil]

/-! ## The parts of a target -/

variable {target : List Char} {c : Char}

theorem number_not_mem_path (target : List Char) : '#' ∉ (split target).1 := by
  intro member
  exact Pieces.not_mem_cutAt '#' target (Pieces.mem_of_mem_cutAt (Or.inl member))

theorem mark_not_mem_path (target : List Char) : '?' ∉ (split target).1 :=
  Pieces.not_mem_cutAt '?' _

theorem number_not_mem_query {query : List Char} (h : (split target).2 = some query) :
    '#' ∉ query := by
  intro member
  exact Pieces.not_mem_cutAt '#' target
    (Pieces.mem_of_mem_cutAt (Or.inr ⟨query, h, member⟩))

/-- **A path and a query put together come apart again.** -/
theorem split_unsplit {path : List Char} {query : Option (List Char)} (sign : '#' ∉ path)
    (mark : '?' ∉ path) (sent : ∀ q ∈ query, '#' ∉ q) :
    split (unsplit path query) = (path, query) := by
  cases query with
  | none =>
      rw [unsplit, split, Pieces.cutAt_of_not_mem sign]
      exact Pieces.cutAt_of_not_mem mark
  | some q =>
      have whole : '#' ∉ path ++ '?' :: q := by
        simp only [List.mem_append, List.mem_cons, not_or]
        exact ⟨sign, by decide, sent q rfl⟩
      rw [split, unsplit, Pieces.cutAt_of_not_mem whole, Pieces.cutAt_append_cons mark]

end StaticPreview.Target
