/-
# StaticPreview.Proofs.AccessLine.Inert -- texts that make no names of variables

Which texts can be put in for the variables of any pattern, so that each variable is read
once.  A text that is put in must not touch the name of a variable that is put in later: the
name must not lie in it, nor over an end of it, nor around it (`Touches`).  Texts that touch no
later name are inert, and every pattern is read once with them (`readsOnce_of_inert`): where
a later name stands, no text has a share in it, so it stands in the pattern, and there the
longest name was taken.

Each other text spoils a pattern: the name of its variable, with what the later name needs
before and behind it (`inert_of_readsOnce`).  So there are no other texts that can be put in
everywhere: `readsOnce_iff_inert`.
-/
import StaticPreview.Proofs.AccessLine.Parts

namespace StaticPreview.AccessLine

/-! ## Names -/

/-- Names of variables.  Each is a `$` and a word without another, so that names do not
overlap; a name that begins another is put in after it; and what a name has behind one that
begins it does not lie in the names after that. -/
structure Variables (names : List (List Char)) : Prop where
  signed : ∀ i < names.length, ∃ word, nameOf names i = '$' :: word ∧ '$' ∉ word
  ordered : ∀ j < names.length, ∀ i < j, ¬ nameOf names i <+: nameOf names j
  behind : ∀ j < names.length, ∀ i < j, ∀ m < i, ∀ z,
    nameOf names m = nameOf names i ++ z → ¬ z <:+: nameOf names j

variable {names : List (List Char)} {s t : List Char} {ps qs : List Part} {i j m : Nat}

namespace Variables

variable (vars : Variables names)

include vars

theorem ne_nil (known : i < names.length) : nameOf names i ≠ [] := by
  obtain ⟨word, written, -⟩ := vars.signed i known
  rw [written]
  exact List.cons_ne_nil _ _

theorem filled : ∀ n ∈ names, n ≠ [] := by
  intro n listed
  obtain ⟨i, known, rfl⟩ := List.getElem_of_mem listed
  have full := vars.ne_nil known
  rwa [nameOf, List.getElem?_eq_getElem known] at full

/-- A `$` in a name is the first of its signs. -/
theorem eq_nil_of_sign (known : i < names.length) (written : nameOf names i = s ++ '$' :: t) :
    s = [] := by
  obtain ⟨word, signed, other⟩ := vars.signed i known
  cases s with
  | nil => rfl
  | cons c s =>
      rw [signed] at written
      obtain ⟨-, rfl⟩ := List.cons.inj written
      exact absurd (by simp) other

/-- A name lies in another only if it begins it. -/
theorem prefix_of_infix (known : i < names.length) (known' : j < names.length)
    (inside : nameOf names i <:+: nameOf names j) : nameOf names i <+: nameOf names j := by
  obtain ⟨word, signed, -⟩ := vars.signed i known
  obtain ⟨s, t, written⟩ := inside
  have first : s = [] := by
    rw [signed, List.append_assoc, List.cons_append] at written
    exact vars.eq_nil_of_sign known' written.symm
  subst first
  exact ⟨t, written⟩

/-- A name does not reach over a `$` that stands behind its beginning. -/
theorem prefix_of_prefix_append (known : i < names.length) (full : s ≠ [])
    (begins : nameOf names i <+: s ++ '$' :: t) : nameOf names i <+: s := by
  rcases List.prefix_or_prefix_of_prefix begins (List.prefix_append s ('$' :: t)) with short | long
  · exact short
  · obtain ⟨z, written⟩ := long
    cases z with
    | nil =>
        refine ⟨[], ?_⟩
        rw [← written, List.append_nil, List.append_nil]
    | cons c z =>
        obtain ⟨b, whole⟩ := begins
        rw [← written, List.append_assoc, List.cons_append] at whole
        obtain ⟨rfl, -⟩ := List.cons.inj (List.append_cancel_left whole)
        exact absurd (vars.eq_nil_of_sign known written.symm) full

/-- Names with different numbers are different. -/
theorem eq_of_nameOf_eq (known : i < names.length) (known' : j < names.length)
    (same : nameOf names i = nameOf names j) : i = j := by
  rcases Nat.lt_trichotomy i j with earlier | rfl | later
  · exact absurd (same ▸ List.prefix_rfl) (vars.ordered j known' i earlier)
  · rfl
  · exact absurd (same ▸ List.prefix_rfl) (vars.ordered i known j later)

end Variables

/-! ## Taking apart -/

/-- A part that is a variable stands in the text by its name. -/
theorem Parted.of_mem (parted : Parted names s ps) (listed : .name i ∈ ps) :
    i < names.length ∧ nameOf names i <:+: s := by
  induction parted with
  | nil => cases listed
  | sign _ _ ih =>
      obtain ⟨known, inside⟩ := ih (by simpa using listed)
      exact ⟨known, inside.trans (List.suffix_cons _ _).isInfix⟩
  | @name l r ps known _ _ ih =>
      rcases List.mem_cons.1 listed with same | later
      · obtain rfl := Part.name.inj same
        exact ⟨known, (List.prefix_append _ _).isInfix⟩
      · obtain ⟨known, inside⟩ := ih later
        exact ⟨known, inside.trans (List.suffix_append _ _).isInfix⟩

/-- **A text has its parts only.** -/
theorem Parted.unique (vars : Variables names) (parted : Parted names s ps)
    (parted' : Parted names s qs) : ps = qs := by
  induction parted generalizing qs with
  | nil =>
      generalize same : ([] : List Char) = s at parted'
      cases parted' with
      | nil => rfl
      | sign => cases same
      | name known => exact absurd (List.append_eq_nil_iff.1 same.symm).1 (vars.ne_nil known)
  | @sign c r ps free _ ih =>
      generalize same : c :: r = s at parted'
      cases parted' with
      | nil => cases same
      | sign _ rest =>
          obtain ⟨rfl, rfl⟩ := List.cons.inj same
          rw [ih rest]
      | name known => exact absurd (same ▸ List.prefix_append _ _) (free _ known)
  | @name i r ps known longest _ ih =>
      generalize same : nameOf names i ++ r = s at parted'
      cases parted' with
      | nil => exact absurd (List.append_eq_nil_iff.1 same).1 (vars.ne_nil known)
      | sign free => exact absurd (same ▸ List.prefix_append _ _) (free _ known)
      | @name j r' _ known' longest' rest =>
          -- both are longest, so they are the same beginning of the text
          have least := longest j known' (same ▸ List.prefix_append _ _)
          have most := longest' i known (same ▸ List.prefix_append _ _)
          obtain ⟨names_, behind⟩ := List.append_inj same (Nat.le_antisymm most least)
          obtain rfl := vars.eq_of_nameOf_eq known known' names_
          subst behind
          rw [ih rest]

/-- What stands before a `$` is taken apart by itself. -/
theorem Parted.append (vars : Variables names) (parted : Parted names s ps)
    (parted' : Parted names ('$' :: t) qs) : Parted names (s ++ '$' :: t) (ps ++ qs) := by
  induction parted with
  | nil => exact parted'
  | sign free _ ih =>
      refine .sign (fun i known begins => free i known ?_) ih
      exact vars.prefix_of_prefix_append known (List.cons_ne_nil _ _) begins
  | @name i r ps known longest _ ih =>
      have full : nameOf names i ++ r ≠ [] := fun empty =>
        vars.ne_nil known (List.append_eq_nil_iff.1 empty).1
      rw [List.append_assoc]
      refine .name known (fun j known' begins => longest j known' ?_) ih
      rw [← List.append_assoc] at begins
      exact vars.prefix_of_prefix_append known' full begins

theorem parted_signs (vars : Variables names) (plain : '$' ∉ s) :
    Parted names s (s.map Part.sign) := by
  induction s with
  | nil => exact .nil
  | cons c r ih =>
      simp only [List.mem_cons, not_or] at plain
      refine .sign (fun i known begins => ?_) (ih plain.2)
      obtain ⟨word, signed, -⟩ := vars.signed i known
      rw [signed] at begins
      exact plain.1 (List.cons_prefix_cons.1 begins).1

/-! ## Touching -/

/-- A text that touches a name: a piece of the text can be a piece of the name, and what the
name has before and behind that piece is beside the text.  A text that is empty touches what
it can stand inside of. -/
def Touches (name text : List Char) : Prop :=
  ∃ front piece back before behind,
    name = front ++ piece ++ back ∧ text = before ++ piece ++ behind ∧
      (front = [] ∨ before = []) ∧ (back = [] ∨ behind = []) ∧
        (piece = [] → front ≠ [] ∧ back ≠ [])

/-- Variables whose texts touch no name that is put in later. -/
def Inert (bs : Bindings) : Prop :=
  ∀ j < bs.length, ∀ i < j, ¬ Touches (nameOf bs.names j) (textOf bs i)

/-- A text touches a name that begins in it. -/
theorem touches_of_begins {name text u v rest : List Char} (filled : v ≠ []) (text_ : text = u ++ v)
    (begins : name <+: v ++ rest) (full : name ≠ []) : Touches name text := by
  rcases List.prefix_or_prefix_of_prefix begins (List.prefix_append v rest) with
    ⟨w, inside⟩ | ⟨w, across⟩
  · refine ⟨[], name, [], u, w, by simp, ?_, .inl rfl, .inl rfl, fun empty => absurd empty full⟩
    rw [text_, ← inside, List.append_assoc]
  · refine ⟨[], v, w, u, [], by simp [across], by simp [text_], .inl rfl, .inr rfl, ?_⟩
    exact fun empty => absurd empty filled

/-- A text touches a name that has begun before it and is not at its end. -/
theorem touches_of_continues {name text x y rest b : List Char} (written : name = x ++ y)
    (begun : x ≠ []) (more : y ≠ []) (continues : text ++ rest = y ++ b) : Touches name text := by
  have begins : y <+: text ++ rest := ⟨b, continues.symm⟩
  rcases List.prefix_or_prefix_of_prefix begins (List.prefix_append text rest) with
    ⟨w, inside⟩ | ⟨w, across⟩
  · refine ⟨x, y, [], [], w, by simp [written], by simp [inside], .inr rfl, .inl rfl, ?_⟩
    exact fun empty => absurd empty more
  · refine ⟨x, text, w, [], [], ?_, by simp, .inr rfl, .inr rfl, ?_⟩
    · rw [written, ← across, List.append_assoc]
    · rintro rfl
      rw [List.nil_append] at across
      exact ⟨begun, across ▸ more⟩

/-! ## Inert texts -/

variable {bs : Bindings} {k : Nat}

/-- **What completes a name that has begun stands in the pattern**, if texts are inert. -/
theorem Parted.completes (vars : Variables bs.names) (inert : Inert bs) (known : k < bs.length)
    (parted : Parted bs.names s ps) {x y b : List Char} (written : nameOf bs.names k = x ++ y)
    (begun : x ≠ []) (completes : shown bs k ps = y ++ b) : y <+: s := by
  induction parted generalizing x y with
  | nil =>
      obtain ⟨rfl, -⟩ := List.append_eq_nil_iff.1 completes.symm
      exact List.prefix_rfl
  | @sign c r ps _ _ ih =>
      cases y with
      | nil => exact List.nil_prefix
      | cons d y =>
          obtain ⟨rfl, rest⟩ := List.cons.inj completes
          have more : nameOf bs.names k = (x ++ [c]) ++ y := by simp [written]
          exact List.cons_prefix_cons.2 ⟨rfl, ih more (by simp) rest⟩
  | @name i r ps known' _ _ _ =>
      cases y with
      | nil => exact List.nil_prefix
      | cons d y =>
          exfalso
          rw [shown_cons] at completes
          by_cases put : i < k
          · rw [Part.shown, if_pos put] at completes
            exact inert k known i put
              (touches_of_continues written begun (List.cons_ne_nil d y) completes)
          · -- a name begins with the sign that no name goes on with
            obtain ⟨word, signed, -⟩ := vars.signed i known'
            rw [Part.shown, if_neg put, signed] at completes
            obtain ⟨rfl, -⟩ := List.cons.inj completes
            exact begun (vars.eq_nil_of_sign (known.trans_eq (length_names bs).symm) written)

/-- A name that begins in no part but its variable stands only where the parts have it. -/
theorem StandsOnly.cons {p : Part} (rest : StandsOnly bs k ps (shown bs k ps))
    (begins : ∀ u v, p.shown bs k = u ++ v → v ≠ [] → nameOf bs.names k <+: v ++ shown bs k ps →
      u = [] ∧ p = .name k) : StandsOnly bs k (p :: ps) (shown bs k (p :: ps)) := by
  intro a b stands
  rw [shown_cons, List.append_assoc] at stands
  have later (a' : List Char) (front : a = p.shown bs k ++ a')
      (there : shown bs k ps = a' ++ nameOf bs.names k ++ b) :
      ∃ before after, p :: ps = before ++ .name k :: after ∧ shown bs k before = a := by
    obtain ⟨before, after, rfl, shows⟩ := rest a' b there
    exact ⟨p :: before, after, rfl, by rw [shown_cons, shows, front]⟩
  rcases List.append_eq_append_iff.1 stands with ⟨a', front, there⟩ | ⟨v, inside, there⟩
  · exact later a' front (by rw [there, List.append_assoc])
  · cases v with
    | nil =>
        refine later [] (by simpa using inside.symm) ?_
        simpa using there.symm
    | cons c v =>
        obtain ⟨rfl, rfl⟩ := begins a (c :: v) inside (List.cons_ne_nil c v) ⟨b, there⟩
        exact ⟨[], ps, rfl, rfl⟩

/-- **One part more.**  A name stands only where the parts have its variable, if it goes on
behind their first only as it does in the pattern, and does not begin in a text there. -/
theorem StandsOnly.step (vars : Variables bs.names) (known : k < bs.length) {p : Part}
    (parted : Parted bs.names s (p :: ps)) (rest : StandsOnly bs k ps (shown bs k ps))
    (completes : ∀ y b, nameOf bs.names k = p.shown bs 0 ++ y → shown bs k ps = y ++ b →
      y <+: shown bs 0 ps)
    (clean : ∀ i < k, p = .name i → ∀ u v, textOf bs i = u ++ v → v ≠ [] →
      ¬ nameOf bs.names k <+: v ++ shown bs k ps) :
    StandsOnly bs k (p :: ps) (shown bs k (p :: ps)) := by
  have known' : k < bs.names.length := known.trans_eq (length_names bs).symm
  obtain ⟨word, signed, -⟩ := vars.signed k known'
  refine rest.cons fun u v inside filled begins => ?_
  cases parted with
  | @sign c r _ free behind =>
      -- a sign that a name begins with is one that the name stands at
      exfalso
      have one : v = [c] := by
        cases u with
        | nil => exact inside.symm
        | cons d u =>
            obtain ⟨-, empty⟩ := List.cons.inj inside
            exact absurd (List.append_eq_nil_iff.1 empty.symm).2 filled
      subst one
      obtain ⟨b, whole⟩ := begins
      rw [signed] at whole
      obtain ⟨rfl, goes⟩ := List.cons.inj whole
      have front := completes word b signed goes.symm
      apply free k known'
      rw [behind.shown_zero] at front
      rw [signed]
      exact List.cons_prefix_cons.2 ⟨rfl, front⟩
  | @name i r _ knownI longest behind =>
      by_cases put : i < k
      · rw [Part.shown, if_pos put] at inside
        exact absurd begins (clean i put rfl u v inside filled)
      · rw [Part.shown, if_neg put] at inside
        have first : u = [] := by
          obtain ⟨c, v, rfl⟩ := List.exists_cons_of_ne_nil filled
          obtain ⟨b, whole⟩ := begins
          rw [signed] at whole
          obtain ⟨rfl, -⟩ := List.cons.inj whole
          exact vars.eq_nil_of_sign knownI inside
        subst first
        refine ⟨rfl, ?_⟩
        rw [List.nil_append] at inside
        subst inside
        rcases Nat.lt_or_eq_of_le (Nat.le_of_not_lt put) with later | rfl
        · -- the longer of two names at a place was taken
          exfalso
          have shorter := vars.ordered i knownI k later
          rcases List.prefix_or_prefix_of_prefix begins (List.prefix_append _ _) with short | long
          · exact shorter short
          · obtain ⟨y, written⟩ := long
            obtain ⟨b, whole⟩ := begins
            rw [← written, List.append_assoc] at whole
            have front := completes y b written.symm (List.append_cancel_left whole).symm
            rw [behind.shown_zero] at front
            have size := longest k known' (written ▸ (List.prefix_append_right_inj _).2 front)
            rw [← written, List.length_append] at size
            have nothing : y = [] := List.length_eq_zero_iff.1 (by omega)
            subst nothing
            rw [List.append_nil] at written
            exact shorter (written ▸ List.prefix_rfl)
        · rfl

/-- A name stands nowhere in nothing. -/
theorem standsOnly_nil (vars : Variables bs.names) (known : k < bs.length) :
    StandsOnly bs k [] (shown bs k []) := by
  intro a b stands
  obtain ⟨front, -⟩ := List.append_eq_nil_iff.1 stands.symm
  exact absurd (List.append_eq_nil_iff.1 front).2
    (vars.ne_nil (known.trans_eq (length_names bs).symm))

theorem Parted.shown_ne_nil (vars : Variables bs.names) {p : Part}
    (parted : Parted bs.names s (p :: ps)) : p.shown bs 0 ≠ [] := by
  cases parted with
  | sign => exact List.cons_ne_nil _ _
  | name known => exact vars.ne_nil known

theorem Parted.tail {p : Part} (parted : Parted bs.names s (p :: ps)) :
    Parted bs.names (shown bs 0 ps) ps := by
  cases parted with
  | sign _ rest => rwa [rest.shown_zero]
  | name _ _ rest => rwa [rest.shown_zero]

/-- **With inert texts a name stands only where the pattern has its variable.** -/
theorem standsOnly_of_inert (vars : Variables bs.names) (inert : Inert bs) (known : k < bs.length)
    (parted : Parted bs.names s ps) : StandsOnly bs k ps (shown bs k ps) := by
  induction ps generalizing s with
  | nil => exact standsOnly_nil vars known
  | cons p ps ih =>
      have full := vars.ne_nil (known.trans_eq (length_names bs).symm)
      refine StandsOnly.step vars known parted (ih parted.tail) ?_ ?_
      · intro y b written goes
        exact parted.tail.completes vars inert known written (parted.shown_ne_nil vars) goes
      · intro i put _ u v inside filled begins
        exact inert k known i put (touches_of_begins filled inside begins full)

/-- **With inert texts every pattern is read once.** -/
theorem readsOnce_of_inert (vars : Variables bs.names) (inert : Inert bs) (pattern : List Char) :
    ReadsOnce bs pattern := by
  apply readsOnce_of_standsOnly vars.filled
  intro k known
  exact standsOnly_of_inert vars inert known (parted_parts vars.filled pattern)

/-! ## Other texts -/

/-- Parts whose variables come later are shown as they stand in the pattern. -/
theorem shown_eq_shown_zero (later : ∀ i, .name i ∈ ps → k ≤ i) :
    shown bs k ps = shown bs 0 ps := by
  induction ps with
  | nil => rfl
  | cons p ps ih =>
      have rest := ih fun i listed => later i (List.mem_cons_of_mem _ listed)
      rw [shown_cons, shown_cons, rest]
      cases p with
      | sign c => rfl
      | name i =>
          have put : ¬ i < k := Nat.not_lt.2 (later i List.mem_cons_self)
          rw [Part.shown, Part.shown, if_neg put, if_neg (Nat.not_lt_zero i)]

theorem shown_signs (s : List Char) : shown bs k (s.map Part.sign) = s := by
  induction s with
  | nil => rfl
  | cons c s ih => exact congrArg (c :: ·) ih

/-- The variable that stands before what a later name needs is taken there. -/
theorem parted_name (vars : Variables names) (known : j < names.length) (earlier : i < j)
    {back : List Char} (needed : back <:+: nameOf names j) (plain : '$' ∉ back) :
    Parted names (nameOf names i ++ back) (.name i :: back.map Part.sign) := by
  have known' := earlier.trans known
  refine .name known' (fun m knownM begins => ?_) (parted_signs vars plain)
  rcases List.prefix_or_prefix_of_prefix begins (List.prefix_append _ _) with short | ⟨z, long⟩
  · exact short.length_le
  · rcases Nat.lt_trichotomy m i with before | rfl | after
    · -- what the longer name has behind it would lie in the later name
      rw [← long, List.prefix_append_right_inj] at begins
      exact absurd (begins.isInfix.trans needed)
        (vars.behind j known i earlier m before z long.symm)
    · exact Nat.le_refl _
    · exact absurd ⟨z, long⟩ (vars.ordered m knownM i after)

/-- **A text that touches a later name spoils a pattern**: its variable, with what that name
has before and behind the piece that the text can be. -/
theorem inert_of_readsOnce (vars : Variables bs.names)
    (once : ∀ pattern, ReadsOnce bs pattern) : Inert bs := by
  rintro j known i earlier ⟨front, piece, back, before, behind, name, text, start, stop, most⟩
  have knownJ : j < bs.names.length := known.trans_eq (length_names bs).symm
  have knownI := earlier.trans knownJ
  obtain ⟨word, signed, -⟩ := vars.signed i knownI
  -- the parts of the pattern
  have plain : '$' ∉ back := by
    intro member
    obtain ⟨u, v, rfl⟩ := List.append_of_mem member
    have written : nameOf bs.names j = (front ++ piece ++ u) ++ '$' :: v := by simp [name]
    have empty := vars.eq_nil_of_sign knownJ written
    obtain ⟨both, -⟩ := List.append_eq_nil_iff.1 empty
    obtain ⟨noFront, noPiece⟩ := List.append_eq_nil_iff.1 both
    exact (most noPiece).1 noFront
  have needed : back <:+: nameOf bs.names j := ⟨front ++ piece, [], by simp [name]⟩
  have frontParts := parted_parts vars.filled front
  have backParts := parted_name vars knownJ earlier needed plain
  have parted : Parted bs.names (front ++ (nameOf bs.names i ++ back))
      (parts bs.names front ++ .name i :: back.map Part.sign) := by
    rw [signed, List.cons_append] at backParts ⊢
    exact frontParts.append vars backParts
  have same := (parted_parts vars.filled _).unique vars parted
  -- the variables before the text come after the name
  have later : ∀ m, .name m ∈ parts bs.names front → j < m := by
    intro m listed
    obtain ⟨knownM, inside⟩ := frontParts.of_mem listed
    have inName : nameOf bs.names m <:+: nameOf bs.names j := by
      rw [name, List.append_assoc]
      exact inside.trans (List.prefix_append _ _).isInfix
    rcases Nat.lt_trichotomy m j with less | rfl | more
    · exact absurd (vars.prefix_of_infix knownM knownJ inName) (vars.ordered j knownJ m less)
    · have size := inside.length_le
      rw [name, List.length_append, List.length_append] at size
      have noPiece : piece = [] := List.length_eq_zero_iff.1 (by omega)
      have noBack : back = [] := List.length_eq_zero_iff.1 (by omega)
      exact absurd noBack (most noPiece).2
    · exact more
  -- so the name stands where the text was put in
  have text_ : substitute (bs.take j) (front ++ (nameOf bs.names i ++ back)) =
      before ++ nameOf bs.names j ++ behind := by
    rw [substitute_take vars.filled (Nat.le_of_lt known)
      fun l less => once _ l (less.trans known), same]
    have shows : shown bs j (parts bs.names front) = front :=
      (shown_eq_shown_zero fun m listed => Nat.le_of_lt (later m listed)).trans
        frontParts.shown_zero
    have put : (Part.name i).shown bs j = textOf bs i := if_pos earlier
    rw [shown, List.flatMap_append, ← shown, ← shown, shows, shown_cons, put, shown_signs, text,
      name]
    rcases start with rfl | rfl <;> rcases stop with rfl | rfl <;> simp
  obtain ⟨left, right, split, -⟩ := once _ j known _ _ text_
  have listed : Part.name j ∈ parts bs.names front ++ .name i :: back.map Part.sign := by
    rw [← same, split]
    simp
  rw [List.mem_append, List.mem_cons, List.mem_map] at listed
  rcases listed with inFront | own | ⟨c, -, sign⟩
  · exact Nat.lt_irrefl j (later j inFront)
  · exact Nat.lt_irrefl j (Part.name.inj own ▸ earlier)
  · cases sign

/-- **Texts can be put into every pattern exactly when they are inert.** -/
theorem readsOnce_iff_inert (vars : Variables bs.names) :
    (∀ pattern, ReadsOnce bs pattern) ↔ Inert bs :=
  ⟨inert_of_readsOnce vars, fun inert pattern => readsOnce_of_inert vars inert pattern⟩

end StaticPreview.AccessLine
