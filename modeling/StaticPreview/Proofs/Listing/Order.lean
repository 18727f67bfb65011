/-
# StaticPreview.Proofs.Listing.Order -- the one order of a listing

The keys of items stand in the order of lists of characters (`before_iff`).  Items of
different keys have therefore only one order, which is the one they are listed in
however they came (`sorted_eq_of_pairwise`).
-/
import Mathlib.Data.List.Nodup
import StaticPreview.Listing

namespace StaticPreview.Listing

theorem before_iff {s t : List Char} : before s t = true ↔ s < t ∨ s = t := by
  induction s generalizing t with
  | nil => cases t <;> simp [before]
  | cons a s ih =>
      cases t with
      | nil => simp [before]
      | cons b t =>
          have smaller : a.toNat < b.toNat ↔ a < b := by
            rw [Char.lt_def, UInt32.lt_iff_toNat_lt]
            rfl
          rw [before, List.cons_lt_cons_iff, ← smaller]
          simp [ih, and_or_left, or_assoc]

theorem before_antisymm {s t : List Char} (ahead : before s t) (behind : before t s) : s = t := by
  rcases before_iff.1 ahead with less | same
  · rcases before_iff.1 behind with greater | same
    · exact absurd greater (List.lt_asymm less)
    · exact same.symm
  · exact same

theorem sorted_perm (items : List Item) : (sorted items).Perm items := by
  have keyed := (List.mergeSort_perm (items.map fun i => (i.key, i))
    fun a b => before a.1 b.1).map Prod.snd
  rw [List.map_map] at keyed
  simpa [sorted, Function.comp_def] using keyed

/-- **Items of different keys are listed in the only order they have.** -/
theorem sorted_eq_of_pairwise {items order : List Item} (distinct : (items.map Item.key).Nodup)
    (perm : order.Perm items) (pairwise : order.Pairwise fun i j => before i.key j.key) :
    sorted items = order := by
  have both : (sorted items).Perm order := (sorted_perm items).trans perm.symm
  refine both.eq_of_pairwise ?_ (pairwise_sorted items) pairwise
  intro i j first second ahead behind
  have same : i.key = j.key := before_antisymm ahead behind
  exact List.inj_on_of_nodup_map distinct ((mem_sorted_iff items i).1 first)
    (perm.mem_iff.1 second) same

/-- The order in which items come to be listed does not show. -/
theorem sorted_eq_of_perm {items items' : List Item} (distinct : (items.map Item.key).Nodup)
    (perm : items.Perm items') : sorted items = sorted items' :=
  sorted_eq_of_pairwise distinct ((sorted_perm items').trans perm.symm) (pairwise_sorted items')

end StaticPreview.Listing
