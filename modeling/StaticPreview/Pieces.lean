/-
# StaticPreview.Pieces -- a list cut at a separator

Targets, paths, dotted keys and comma lists are all one list cut at an item that
stands between the pieces.  `split` cuts at every occurrence and `join` undoes
it; `cutAt` cuts at the first occurrence only and says whether there was one.
-/
namespace StaticPreview.Pieces

variable {α : Type} [DecidableEq α]

/-- Cut at every occurrence of `sep`; there is one piece more than separators. -/
def split (sep : α) : List α → List (List α)
  | [] => [[]]
  | b :: r =>
      if b = sep then [] :: split sep r
      else
        match split sep r with
        | [] => [[b]]
        | piece :: pieces => (b :: piece) :: pieces

/-- Put `sep` between the pieces. -/
def join (sep : α) : List (List α) → List α
  | [] => []
  | [piece] => piece
  | piece :: pieces => piece ++ sep :: join sep pieces

theorem split_ne_nil (sep : α) (s : List α) : split sep s ≠ [] := by
  cases s with
  | nil => simp [split]
  | cons b r => simp only [split]; split <;> (try split) <;> simp

/-- **Splitting loses nothing.** -/
theorem join_split (sep : α) (s : List α) : join sep (split sep s) = s := by
  induction s with
  | nil => rfl
  | cons b r ih =>
      cases hs : split sep r with
      | nil => exact absurd hs (split_ne_nil sep r)
      | cons piece pieces =>
          by_cases hb : b = sep
          · rw [hs] at ih
            simp only [split, hb, if_true, hs, join, List.nil_append, ih]
          · rw [hs] at ih
            cases pieces with
            | nil => simp_all [split, join]
            | cons p ps => simp_all [split, join]

/-- No piece holds the separator. -/
theorem not_mem_of_mem_split {sep : α} {s piece : List α} (h : piece ∈ split sep s) :
    sep ∉ piece := by
  induction s generalizing piece with
  | nil => simp_all [split]
  | cons b r ih =>
      cases hs : split sep r with
      | nil => exact absurd hs (split_ne_nil sep r)
      | cons p ps =>
          by_cases hb : b = sep
          · simp only [split, hb, if_true] at h
            rcases List.mem_cons.1 h with rfl | h
            · simp
            · exact ih h
          · simp only [split, hb, if_false, hs] at h
            rcases List.mem_cons.1 h with rfl | h
            · have := @ih p (by simp [hs])
              simp only [List.mem_cons, not_or]
              exact ⟨fun e => hb e.symm, this⟩
            · exact ih (by simp [hs, h])

/-- What stands before the first `sep`, and what stands after it, if it occurs. -/
def cutAt (sep : α) : List α → List α × Option (List α)
  | [] => ([], none)
  | b :: r =>
      if b = sep then ([], some r)
      else ((b :: (cutAt sep r).1), (cutAt sep r).2)

theorem cutAt_of_not_mem {sep : α} {s : List α} (h : sep ∉ s) : cutAt sep s = (s, none) := by
  induction s with
  | nil => rfl
  | cons b r ih =>
      simp only [List.mem_cons, not_or] at h
      simp [cutAt, ih h.2, Ne.symm h.1]

/-- The first `sep` is the one that is cut at. -/
theorem cutAt_append_cons {sep : α} {s : List α} (h : sep ∉ s) (r : List α) :
    cutAt sep (s ++ sep :: r) = (s, some r) := by
  induction s with
  | nil => simp [cutAt]
  | cons b s ih =>
      simp only [List.mem_cons, not_or] at h
      simp [cutAt, ih h.2, Ne.symm h.1]

/-- Whether `part` occurs in `s` as a run of neighbours. -/
def hasInfix (part : List α) : List α → Bool
  | [] => part.isEmpty
  | b :: r => part.isPrefixOf (b :: r) || hasInfix part r

theorem hasInfix_iff (part s : List α) : hasInfix part s = true ↔ part <:+: s := by
  induction s with
  | nil => simp [hasInfix, List.isEmpty_iff]
  | cons b r ih =>
      rw [hasInfix, Bool.or_eq_true, ih, List.isPrefixOf_iff_prefix, List.infix_cons_iff]

end StaticPreview.Pieces
