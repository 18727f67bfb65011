/-
# StaticPreview.Proofs.AccessLine.Spaced -- patterns with gaps about their variables

In most patterns a variable has blanks, quotes or brackets beside it, which no name has in it
(`Spaced`).  Nothing that such a pattern has before or behind a variable can make a name
together with the text that is put in there.  So all that it takes for these patterns to be
read once is that no text has a whole name in it that is put in later:
`readsOnce_iff_clean`.
-/
import StaticPreview.Proofs.AccessLine.Inert

namespace StaticPreview.AccessLine

/-- A sign that is in no name. -/
def Part.IsGap (names : List (List Char)) : Part → Prop
  | .sign c => ∀ n ∈ names, c ∉ n
  | .name _ => False

instance (names : List (List Char)) (p : Part) : Decidable (p.IsGap names) := by
  cases p <;> (unfold Part.IsGap; infer_instance)

/-- Whether a part is a variable. -/
def Part.isName : Part → Bool
  | .sign _ => false
  | .name _ => true

/-- Neighbours of which one is a gap if the other is a variable. -/
def Part.Beside (names : List (List Char)) (p q : Part) : Prop :=
  (p.isName = true → q.IsGap names) ∧ (q.isName = true → p.IsGap names)

instance (names : List (List Char)) : DecidableRel (Part.Beside names) := fun p q => by
  unfold Part.Beside
  infer_instance

/-- Parts with gaps about their variables. -/
def Spaced (names : List (List Char)) (ps : List Part) : Prop := ps.IsChain (Part.Beside names)

instance (names : List (List Char)) (ps : List Part) : Decidable (Spaced names ps) := by
  unfold Spaced
  infer_instance

variable {bs : Bindings} {k : Nat} {s : List Char} {ps : List Part}

theorem not_mem_of_isGap {names : List (List Char)} {c : Char} {i : Nat}
    (gap : (Part.sign c).IsGap names) (known : i < names.length) : c ∉ nameOf names i := by
  rw [nameOf, List.getElem?_eq_getElem known]
  exact gap _ (List.getElem_mem known)

/-- What completes a name that has begun in a sign stands in the pattern. -/
theorem Parted.completes_of_spaced (known : k < bs.names.length) (parted : Parted bs.names s ps)
    {c : Char} (spaced : Spaced bs.names (.sign c :: ps)) {x y b : List Char}
    (written : nameOf bs.names k = x ++ c :: y) (completes : shown bs k ps = y ++ b) : y <+: s := by
  induction parted generalizing c x y with
  | nil =>
      obtain ⟨rfl, -⟩ := List.append_eq_nil_iff.1 completes.symm
      exact List.prefix_rfl
  | @sign d r ps _ _ ih =>
      cases y with
      | nil => exact List.nil_prefix
      | cons e y =>
          obtain ⟨rfl, rest⟩ := List.cons.inj completes
          have more : nameOf bs.names k = (x ++ [c]) ++ d :: y := by simp [written]
          exact List.cons_prefix_cons.2 ⟨rfl, ih (List.isChain_cons_cons.1 spaced).2 more rest⟩
  | name =>
      -- a variable has a gap before it
      have gap := (List.isChain_cons_cons.1 spaced).1.2 rfl
      exact absurd (written ▸ by simp) (not_mem_of_isGap gap known)

/-- **A name that begins in a variable's text or name ends in it**, if there is a gap behind. -/
theorem prefix_of_spaced (known : k < bs.names.length) {i : Nat}
    (spaced : Spaced bs.names (.name i :: ps)) {v : List Char}
    (begins : nameOf bs.names k <+: v ++ shown bs k ps) : nameOf bs.names k <+: v := by
  cases ps with
  | nil => simpa [shown] using begins
  | cons q ps =>
      have gap := (List.isChain_cons_cons.1 spaced).1.1 rfl
      cases q with
      | name => cases gap
      | sign c =>
          rcases List.prefix_or_prefix_of_prefix begins (List.prefix_append _ _) with
            short | ⟨z, written⟩
          · exact short
          · cases z with
            | nil =>
                refine ⟨[], ?_⟩
                rw [← written, List.append_nil, List.append_nil]
            | cons d z =>
                obtain ⟨b, whole⟩ := begins
                rw [← written, List.append_assoc, List.cons_append] at whole
                obtain ⟨rfl, -⟩ := List.cons.inj (List.append_cancel_left whole)
                exact absurd (written ▸ by simp) (not_mem_of_isGap gap known)

/-- Variables whose texts have no name in them that is put in later. -/
def Clean (bs : Bindings) : Prop :=
  ∀ j < bs.length, ∀ i < j, ¬ nameOf bs.names j <:+: textOf bs i

theorem standsOnly_of_spaced (vars : Variables bs.names) (known : k < bs.length)
    (clean : ∀ i < k, ¬ nameOf bs.names k <:+: textOf bs i) (parted : Parted bs.names s ps)
    (spaced : Spaced bs.names ps) : StandsOnly bs k ps (shown bs k ps) := by
  have known' : k < bs.names.length := known.trans_eq (length_names bs).symm
  induction ps generalizing s with
  | nil => exact standsOnly_nil vars known
  | cons p ps ih =>
      refine StandsOnly.step vars known parted (ih parted.tail spaced.of_cons) ?_ ?_
      · intro y b written goes
        cases p with
        | sign c => exact parted.tail.completes_of_spaced (x := []) known' spaced written goes
        | name i =>
            rw [Part.shown, if_neg (Nat.not_lt_zero i)] at written
            have begins : nameOf bs.names k <+: nameOf bs.names i ++ shown bs k ps := by
              rw [written, goes, ← List.append_assoc]
              exact List.prefix_append _ b
            have size := (prefix_of_spaced known' spaced begins).length_le
            rw [written, List.length_append] at size
            have nothing : y = [] := List.length_eq_zero_iff.1 (by omega)
            rw [nothing]
            exact List.nil_prefix
      · rintro i put rfl u v inside filled begins
        have within := (prefix_of_spaced known' spaced begins).isInfix
        apply clean i put
        rw [inside]
        exact within.trans (List.suffix_append u v).isInfix

/-- **Patterns with gaps about their variables are read once exactly when the texts have no
later name in them.** -/
theorem readsOnce_iff_clean (vars : Variables bs.names) :
    (∀ pattern, Spaced bs.names (parts bs.names pattern) → ReadsOnce bs pattern) ↔ Clean bs := by
  constructor
  · -- a variable alone is such a pattern
    rintro once j known i earlier ⟨a, b, inside⟩
    have knownJ : j < bs.names.length := known.trans_eq (length_names bs).symm
    have parted := parted_name vars knownJ earlier (List.nil_infix) List.not_mem_nil
    have alone := (parted_parts vars.filled _).unique vars parted
    have spaced : Spaced bs.names (parts bs.names (nameOf bs.names i ++ [])) := by
      rw [alone]
      exact .singleton _
    have read := once _ spaced
    have put : substitute (bs.take j) (nameOf bs.names i ++ []) = textOf bs i := by
      rw [substitute_take vars.filled (Nat.le_of_lt known) fun l less => read l (less.trans known),
        alone]
      simp [shown, Part.shown, earlier]
    obtain ⟨before, after, split, -⟩ := read j known a b (put.trans inside.symm)
    have listed : Part.name j ∈ [Part.name i] := by
      rw [← List.map_nil, ← alone, split]
      simp
    have same := Part.name.inj (List.mem_singleton.1 listed)
    exact Nat.lt_irrefl j (same ▸ earlier)
  · intro clean pattern spaced
    apply readsOnce_of_standsOnly vars.filled
    intro k known
    exact standsOnly_of_spaced vars known (clean k known) (parted_parts vars.filled pattern) spaced

end StaticPreview.AccessLine
