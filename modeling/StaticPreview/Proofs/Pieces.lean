/-
# StaticPreview.Proofs.Pieces -- where a list comes apart

Cutting at a separator is compositional: the pieces of two lists with a separator
between them are the pieces of the one and then of the other
(`split_append_cons`), and a list without the separator is its own only piece.
-/
import StaticPreview.Pieces

namespace StaticPreview.Pieces

variable {α : Type} [DecidableEq α]

theorem split_of_not_mem {sep : α} {s : List α} (h : sep ∉ s) : split sep s = [s] := by
  induction s with
  | nil => rfl
  | cons b r ih =>
      simp only [List.mem_cons, not_or] at h
      have hb : ¬ b = sep := fun e => h.1 e.symm
      simp only [split, hb, if_false, ih h.2]

/-- **A separator between two lists parts their pieces.** -/
theorem split_append_cons (sep : α) (s t : List α) :
    split sep (s ++ sep :: t) = split sep s ++ split sep t := by
  induction s with
  | nil => simp [split]
  | cons b r ih =>
      cases hr : split sep r with
      | nil => exact absurd hr (split_ne_nil sep r)
      | cons piece pieces =>
          have hrest : split sep (r ++ sep :: t) = piece :: (pieces ++ split sep t) := by
            rw [ih, hr, List.cons_append]
          by_cases hb : b = sep
          · simp only [List.cons_append, split, hb, if_true, hr, hrest]
          · simp only [List.cons_append, split, hb, if_false, hr, hrest]

/-- **Pieces that were joined are cut apart again.** -/
theorem split_join {sep : α} {pieces : List (List α)} (filled : pieces ≠ [])
    (free : ∀ piece ∈ pieces, sep ∉ piece) : split sep (join sep pieces) = pieces := by
  induction pieces with
  | nil => exact absurd rfl filled
  | cons piece pieces ih =>
      have first := split_of_not_mem (free piece List.mem_cons_self)
      cases pieces with
      | nil => exact first
      | cons next pieces =>
          have rest := ih (by simp) fun p member => free p (List.mem_cons_of_mem _ member)
          rw [join, split_append_cons, first, rest]
          · rfl
          · simp

/-- The first piece of a longer list is that of its beginning, when that holds a
separator or nothing else follows. -/
theorem head?_split_append_cons (sep : α) (s t : List α) :
    (split sep (s ++ sep :: t)).head? = (split sep s).head? := by
  cases hs : split sep s with
  | nil => exact absurd hs (split_ne_nil sep s)
  | cons piece pieces => simp [split_append_cons, hs]

/-- **What stands before and after the first separator is fixed by the whole.** -/
theorem eq_of_append_cons_eq {sep : α} {s t u v : List α} (hs : sep ∉ s) (ht : sep ∉ t)
    (h : s ++ sep :: u = t ++ sep :: v) : s = t ∧ u = v := by
  have cut : (s, some u) = (t, some v) := by
    rw [← cutAt_append_cons hs u, ← cutAt_append_cons ht v, h]
  obtain ⟨same, rest⟩ := Prod.mk.inj cut
  exact ⟨same, Option.some.inj rest⟩

/-- What is cut off starts with the separator. -/
theorem exists_eq_cutAt_append (sep : α) (s : List α) :
    ∃ tail, s = (cutAt sep s).1 ++ tail ∧ ∀ c ∈ tail.head?, c = sep := by
  induction s with
  | nil => exact ⟨[], rfl, by simp⟩
  | cons b r ih =>
      by_cases hb : b = sep
      · refine ⟨b :: r, ?_, ?_⟩
        · simp [cutAt, hb]
        · intro c hc
          rw [← Option.some.inj hc]
          exact hb
      · obtain ⟨tail, whole, starts⟩ := ih
        refine ⟨tail, ?_, starts⟩
        simp only [cutAt, hb, if_false, List.cons_append]
        rw [← whole]

/-- What stands before the place of the cut stays before it. -/
theorem cutAt_append {sep : α} {s : List α} (h : sep ∉ s) (t : List α) :
    cutAt sep (s ++ t) = (s ++ (cutAt sep t).1, (cutAt sep t).2) := by
  induction s with
  | nil => rfl
  | cons b r ih =>
      simp only [List.mem_cons, not_or] at h
      have other : ¬ b = sep := fun e => h.1 e.symm
      rw [List.cons_append, cutAt, if_neg other, ih h.2]
      rfl

/-- There is no separator in what stands before the first one. -/
theorem not_mem_cutAt (sep : α) (s : List α) : sep ∉ (cutAt sep s).1 := by
  induction s with
  | nil => simp [cutAt]
  | cons b r ih =>
      by_cases hb : b = sep
      · simp [cutAt, hb]
      · simp only [cutAt, hb, if_false, List.mem_cons, not_or]
        exact ⟨fun e => hb e.symm, ih⟩

/-- Nothing stands before or after a cut that was not there. -/
theorem mem_of_mem_cutAt {sep c : α} {s : List α}
    (h : c ∈ (cutAt sep s).1 ∨ ∃ rest ∈ (cutAt sep s).2, c ∈ rest) : c ∈ s := by
  induction s with
  | nil => simp [cutAt] at h
  | cons b r ih =>
      by_cases hb : b = sep
      · simp only [cutAt, hb, if_true, List.not_mem_nil, false_or] at h
        obtain ⟨rest, same, member⟩ := h
        cases same
        exact List.mem_cons_of_mem _ member
      · simp only [cutAt, hb, if_false, List.mem_cons] at h
        rcases h with (rfl | front) | behind
        · exact List.mem_cons_self
        · exact List.mem_cons_of_mem _ (ih (Or.inl front))
        · exact List.mem_cons_of_mem _ (ih (Or.inr behind))

/-- What stands behind an end is not taken. -/
theorem takeWhile_append_of_head? {β : Type} {p : β → Bool} {tail : List β}
    (ends : ∀ c ∈ tail.head?, p c = false) (s : List β) :
    (s ++ tail).takeWhile p = s.takeWhile p := by
  induction s with
  | nil =>
      cases tail with
      | nil => rfl
      | cons c tail =>
          have stop : p c = false := ends c rfl
          simp [stop]
  | cons b r ih => rw [List.cons_append, List.takeWhile_cons, List.takeWhile_cons, ih]

end StaticPreview.Pieces
