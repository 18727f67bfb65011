/-
# StaticPreview.Proofs.AccessLine.Parts -- a pattern taken apart in one pass

Read once from the left, a pattern is a list of parts: at each place the longest name of a
variable that stands there, or else one sign (`parts`).  With every variable shown by its
text that is the line that a pattern is written for (`onePass`).

The variables are put in one after another instead.  Before a variable is put in, the text
should be the parts with the variables before it shown by their texts and the others by
their names (`shown`).  It is, if at every step the name that is looked for stands in the
text only where the pattern has that variable (`ReadsOnce`): then putting in a variable is one
step of showing (`replaceAll_shown`), and all of them together are the one pass
(`substitute_eq_onePass`).
-/
import Mathlib.Data.List.MinMax
import StaticPreview.AccessLine.Pattern

namespace StaticPreview.AccessLine

/-! ## Parts -/

/-- A part of a pattern: a sign for itself, or the variable with a number. -/
inductive Part where
  | sign (c : Char)
  | name (i : Nat)
  deriving DecidableEq, Repr

/-- The name with a number. -/
def nameOf (names : List (List Char)) (i : Nat) : List Char := names[i]?.getD []

/-- The longest of the names that a text begins with. -/
def longest? (names : List (List Char)) (s : List Char) : Option Nat :=
  ((List.range names.length).filter fun i => (nameOf names i).isPrefixOf s).argmax
    fun i => (nameOf names i).length

/-- The parts of a text from a place on; `skip` characters at its front belong to a name that
was taken. -/
def partsFrom (names : List (List Char)) : Nat → List Char → List Part
  | _, [] => []
  | skip + 1, _ :: r => partsFrom names skip r
  | 0, c :: r =>
      match longest? names (c :: r) with
      | some i => .name i :: partsFrom names ((nameOf names i).length - 1) r
      | none => .sign c :: partsFrom names 0 r

/-- The parts of a pattern. -/
def parts (names : List (List Char)) (pattern : List Char) : List Part := partsFrom names 0 pattern

/-- The names of variables with their texts, in the order in which they are put in. -/
abbrev Bindings := List (List Char × List Char)

/-- The names alone. -/
def Bindings.names (bs : Bindings) : List (List Char) := bs.map Prod.fst

/-- The text of the variable with a number. -/
def textOf (bs : Bindings) (i : Nat) : List Char := (bs[i]?.map Prod.snd).getD []

/-- A part with the first `k` variables put in. -/
def Part.shown (bs : Bindings) (k : Nat) : Part → List Char
  | .sign c => [c]
  | .name i => if i < k then textOf bs i else nameOf bs.names i

/-- Parts with the first `k` variables put in. -/
def shown (bs : Bindings) (k : Nat) (ps : List Part) : List Char := ps.flatMap (Part.shown bs k)

/-- The line that a pattern is written for: its parts, every variable shown by its text. -/
def onePass (bs : Bindings) (pattern : List Char) : List Char :=
  shown bs bs.length (parts bs.names pattern)

/-! ## Taking apart -/

variable {names : List (List Char)} {s : List Char} {i : Nat}

theorem longest?_eq_none_iff :
    longest? names s = none ↔ ∀ i < names.length, ¬ nameOf names i <+: s := by
  rw [longest?, List.argmax_eq_none, List.filter_eq_nil_iff]
  simp [List.isPrefixOf_iff_prefix]

theorem of_longest?_eq_some (h : longest? names s = some i) :
    i < names.length ∧ nameOf names i <+: s ∧
      ∀ j < names.length, nameOf names j <+: s →
        (nameOf names j).length ≤ (nameOf names i).length := by
  have listed := List.argmax_mem h
  rw [List.mem_filter, List.mem_range, List.isPrefixOf_iff_prefix] at listed
  refine ⟨listed.1, listed.2, fun j known begins => ?_⟩
  apply List.le_of_mem_argmax _ h
  rw [List.mem_filter, List.mem_range, List.isPrefixOf_iff_prefix]
  exact ⟨known, begins⟩

/-- A text with its parts: of the names at a place the longest is taken. -/
inductive Parted (names : List (List Char)) : List Char → List Part → Prop
  | nil : Parted names [] []
  | sign {c : Char} {r : List Char} {ps : List Part}
      (free : ∀ i < names.length, ¬ nameOf names i <+: c :: r) (rest : Parted names r ps) :
      Parted names (c :: r) (.sign c :: ps)
  | name {i : Nat} {r : List Char} {ps : List Part} (known : i < names.length)
      (longest : ∀ j < names.length, nameOf names j <+: nameOf names i ++ r →
        (nameOf names j).length ≤ (nameOf names i).length) (rest : Parted names r ps) :
      Parted names (nameOf names i ++ r) (.name i :: ps)

theorem partsFrom_eq (names : List (List Char)) (skip : Nat) (s : List Char) :
    partsFrom names skip s = parts names (s.drop skip) := by
  induction s generalizing skip with
  | nil => cases skip <;> rfl
  | cons c r ih =>
      cases skip with
      | zero => rfl
      | succ skip => exact ih skip

theorem nameOf_ne_nil (filled : ∀ n ∈ names, n ≠ []) (known : i < names.length) :
    nameOf names i ≠ [] := by
  rw [nameOf, List.getElem?_eq_getElem known]
  exact filled _ (List.getElem_mem known)

/-- What is left behind the first character of a name is left behind the name. -/
theorem drop_name {n t r : List Char} {c : Char} (filled : n ≠ []) (written : n ++ t = c :: r) :
    r.drop (n.length - 1) = t := by
  obtain ⟨d, n, rfl⟩ := List.exists_cons_of_ne_nil filled
  obtain ⟨-, rfl⟩ := List.cons.inj written
  simp

/-- **Every text is parted.** -/
theorem parted_parts (filled : ∀ n ∈ names, n ≠ []) (s : List Char) :
    Parted names s (parts names s) := by
  induction length : s.length using Nat.strongRecOn generalizing s with
  | ind n ih =>
      cases s with
      | nil => exact .nil
      | cons c r =>
          rw [List.length_cons] at length
          rw [parts, partsFrom]
          cases found : longest? names (c :: r) with
          | none => exact .sign (longest?_eq_none_iff.1 found) (ih _ (by omega) r rfl)
          | some i =>
              obtain ⟨known, ⟨t, written⟩, longest⟩ := of_longest?_eq_some found
              have full := nameOf_ne_nil filled known
              have shorter : t.length < n := by
                have sizes := congrArg List.length written
                have positive := List.length_pos_iff.2 full
                simp only [List.length_append, List.length_cons] at sizes
                omega
              dsimp only
              rw [partsFrom_eq, drop_name full written, ← written]
              rw [← written] at longest
              exact .name known longest (ih _ shorter t rfl)

/-- With no variable put in, the parts are the text. -/
theorem Parted.shown_zero {bs : Bindings} {ps : List Part} (parted : Parted bs.names s ps) :
    shown bs 0 ps = s := by
  induction parted with
  | nil => rfl
  | sign _ _ ih => exact congrArg (_ :: ·) ih
  | name _ _ _ ih => exact congrArg (_ ++ ·) ih

/-! ## Putting in a variable -/

theorem replaceFrom_eq (name text : List Char) (skip : Nat) (s : List Char) :
    replaceFrom name text skip s = replaceAll name text (s.drop skip) := by
  induction s generalizing skip with
  | nil => cases skip <;> rfl
  | cons c r ih =>
      cases skip with
      | zero => rfl
      | succ skip => exact ih skip

theorem replaceAll_name {name : List Char} (filled : name ≠ []) (text r : List Char) :
    replaceAll name text (name ++ r) = text ++ replaceAll name text r := by
  cases written : name ++ r with
  | nil => exact absurd (List.append_eq_nil_iff.1 written).1 filled
  | cons c t =>
      have begins : name.isPrefixOf (c :: t) = true := by
        rw [← written, List.isPrefixOf_iff_prefix]
        exact List.prefix_append name r
      rw [replaceAll, replaceFrom, if_pos begins, replaceFrom_eq, drop_name filled written]

/-- A text in which the name begins nowhere stays as it is. -/
theorem replaceAll_append {name s r : List Char} (text : List Char)
    (free : ∀ u v, s = u ++ v → v ≠ [] → ¬ name <+: v ++ r) :
    replaceAll name text (s ++ r) = s ++ replaceAll name text r := by
  induction s with
  | nil => rfl
  | cons c s ih =>
      have here : ¬ name.isPrefixOf (c :: (s ++ r)) = true := by
        rw [List.isPrefixOf_iff_prefix]
        exact free [] (c :: s) rfl (List.cons_ne_nil c s)
      have later : ∀ u v, s = u ++ v → v ≠ [] → ¬ name <+: v ++ r := by
        rintro u v rfl
        exact free (c :: u) v rfl
      rw [List.cons_append, replaceAll, replaceFrom, if_neg here]
      exact congrArg (c :: ·) (ih later)

variable {bs : Bindings} {k : Nat}

/-- With parts shown so far, a name stands in them only where they have its variable. -/
def StandsOnly (bs : Bindings) (k : Nat) (ps : List Part) (s : List Char) : Prop :=
  ∀ a b, s = a ++ nameOf bs.names k ++ b →
    ∃ before after, ps = before ++ .name k :: after ∧ shown bs k before = a

theorem shown_cons (p : Part) (ps : List Part) :
    shown bs k (p :: ps) = p.shown bs k ++ shown bs k ps := List.flatMap_cons

theorem Part.shown_name_self : (Part.name k).shown bs k = nameOf bs.names k :=
  if_neg (Nat.lt_irrefl k)

/-- Putting in a variable changes no other part. -/
theorem Part.shown_succ_of_ne {p : Part} (other : p ≠ .name k) :
    p.shown bs (k + 1) = p.shown bs k := by
  cases p with
  | sign c => rfl
  | name i =>
      have apart : i ≠ k := fun same => other (congrArg Part.name same)
      have same : i < k + 1 ↔ i < k := by omega
      simp only [Part.shown, same]

theorem StandsOnly.tail {p : Part} {ps : List Part} (filled : nameOf bs.names k ≠ [])
    (only : StandsOnly bs k (p :: ps) (shown bs k (p :: ps))) :
    StandsOnly bs k ps (shown bs k ps) := by
  intro a b stands
  have whole : shown bs k (p :: ps) = (p.shown bs k ++ a) ++ nameOf bs.names k ++ b := by
    rw [shown_cons, stands]
    simp only [List.append_assoc]
  obtain ⟨before, after, split, front⟩ := only _ _ whole
  cases before with
  | nil =>
      obtain ⟨rfl, -⟩ := List.cons.inj split
      rw [Part.shown_name_self] at front
      exact absurd (List.append_eq_nil_iff.1 front.symm).1 filled
  | cons q before =>
      obtain ⟨rfl, rest⟩ := List.cons.inj split
      exact ⟨before, after, rest, List.append_cancel_left ((shown_cons p before).symm.trans front)⟩

/-- In a part that is not its variable, such a name does not begin. -/
theorem StandsOnly.not_begins {p : Part} {ps : List Part}
    (only : StandsOnly bs k (p :: ps) (shown bs k (p :: ps))) (other : p ≠ .name k)
    {u v : List Char} (inside : p.shown bs k = u ++ v) (filled : v ≠ []) :
    ¬ nameOf bs.names k <+: v ++ shown bs k ps := by
  rintro ⟨b, begins⟩
  have whole : shown bs k (p :: ps) = u ++ nameOf bs.names k ++ b := by
    rw [shown_cons, inside, List.append_assoc, ← begins, List.append_assoc]
  obtain ⟨before, after, split, front⟩ := only _ _ whole
  cases before with
  | nil => exact other (List.cons.inj split).1
  | cons q before =>
      obtain ⟨rfl, -⟩ := List.cons.inj split
      have sizes := congrArg List.length front
      have positive := List.length_pos_iff.2 filled
      rw [shown_cons, inside, List.length_append, List.length_append] at sizes
      omega

/-- **Putting in a variable whose name stands only where the parts have it shows it.** -/
theorem replaceAll_shown (filled : nameOf bs.names k ≠ []) {ps : List Part}
    (only : StandsOnly bs k ps (shown bs k ps)) :
    replaceAll (nameOf bs.names k) (textOf bs k) (shown bs k ps) = shown bs (k + 1) ps := by
  induction ps with
  | nil => rfl
  | cons p ps ih =>
      have rest := ih (only.tail filled)
      rw [shown_cons, shown_cons, ← rest]
      by_cases here : p = .name k
      · subst here
        have put : (Part.name k).shown bs (k + 1) = textOf bs k := if_pos (Nat.lt_succ_self k)
        rw [Part.shown_name_self, put, replaceAll_name filled]
      · rw [Part.shown_succ_of_ne here]
        exact replaceAll_append _ fun u v inside => only.not_begins here inside

/-! ## One variable after another -/

/-- A pattern of which every variable is read once: whenever a variable is put in, its name
stands in the text that there is only where the pattern has that variable.  So no text that
was put in is read again, alone or together with what stands beside it. -/
def ReadsOnce (bs : Bindings) (pattern : List Char) : Prop :=
  ∀ k < bs.length, StandsOnly bs k (parts bs.names pattern) (substitute (bs.take k) pattern)

theorem length_names (bs : Bindings) : bs.names.length = bs.length := List.length_map _

theorem substitute_take_succ (known : k < bs.length) (pattern : List Char) :
    substitute (bs.take (k + 1)) pattern =
      replaceAll (nameOf bs.names k) (textOf bs k) (substitute (bs.take k) pattern) := by
  have name : nameOf bs.names k = (bs[k]).1 := by
    simp [nameOf, Bindings.names, List.getElem?_eq_getElem known]
  have text : textOf bs k = (bs[k]).2 := by
    simp [textOf, List.getElem?_eq_getElem known]
  rw [List.take_succ_eq_append_getElem known, substitute, List.foldl_append, name, text]
  rfl

/-- **Before each variable is put in, the parts are shown up to it.** -/
theorem substitute_take (filled : ∀ n ∈ bs.names, n ≠ []) {pattern : List Char} {k : Nat}
    (known : k ≤ bs.length)
    (once : ∀ j < k, StandsOnly bs j (parts bs.names pattern) (substitute (bs.take j) pattern)) :
    substitute (bs.take k) pattern = shown bs k (parts bs.names pattern) := by
  induction k with
  | zero => exact (parted_parts filled pattern).shown_zero.symm
  | succ k ih =>
      have before := ih (Nat.le_of_lt known) fun j earlier => once j (Nat.lt_succ_of_lt earlier)
      have only := once k (Nat.lt_succ_self k)
      have full : nameOf bs.names k ≠ [] :=
        nameOf_ne_nil filled (Nat.lt_of_lt_of_eq known (length_names bs).symm)
      rw [before] at only
      rw [substitute_take_succ known, before, replaceAll_shown full only]

/-- A pattern is read once if that holds of what its parts show. -/
theorem readsOnce_of_standsOnly (filled : ∀ n ∈ bs.names, n ≠ []) {pattern : List Char}
    (only : ∀ k < bs.length, StandsOnly bs k (parts bs.names pattern)
      (shown bs k (parts bs.names pattern))) : ReadsOnce bs pattern := by
  intro k
  induction k using Nat.strongRecOn with
  | ind k ih =>
      intro known
      rw [substitute_take filled (Nat.le_of_lt known) fun j earlier =>
        ih j earlier (earlier.trans known)]
      exact only k known

/-- **Variables that are read once are put in as in one pass.** -/
theorem substitute_eq_onePass (filled : ∀ n ∈ bs.names, n ≠ []) {pattern : List Char}
    (once : ReadsOnce bs pattern) : substitute bs pattern = onePass bs pattern := by
  have all := substitute_take filled (Nat.le_refl bs.length) once
  rwa [List.take_length] at all

end StaticPreview.AccessLine
