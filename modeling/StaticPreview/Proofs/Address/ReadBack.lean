/-
# StaticPreview.Proofs.Address.ReadBack -- addresses read back from their text

A number that is written digit by digit has values for its digits (`Spelt`): they make up
the number, there are no more of them than it needs, and no zero leads them.  So it is read
back, whatever follows it that is no digit (`number?_append`), and with it bytes, groups
and ports.

The text of an address of version 6 has one of three forms, and each is read back
(`v6?_text`).  With dots, the last two groups come from their four bytes.  Without `::`,
all eight groups stand there.  With `::`, what it stands for is a run of zeros, since that
is all `longestZeros` ever gives (`zerosAt_longestZeros`), and the reader fills in as many
as are missing.
-/
import StaticPreview.Proofs.Address
import StaticPreview.Proofs.Address.Stops

namespace StaticPreview.Address

open StaticPreview.Text
open IpAddr (byteText dottedText hexText groupsText longestZeros)

variable {base bound n : Nat} {most : Option Nat} {zeros : Bool} {s t : List Char}

/-! ## Numbers -/

/-- A text does not begin with a digit. -/
def NoDigit (base : Nat) (s : List Char) : Prop := s.head?.bind (digitValue? base) = none

theorem noDigit_cons {c : Char} (other : digitValue? base c = none) : NoDigit base (c :: t) :=
  other

/-- The values of the digits that a number is written with. -/
structure Spelt (base n : Nat) (s : List Char) (values : List Nat) : Prop where
  legible : s.map (digitValue? base) = values.map some
  filled : values ≠ []
  value : values.foldl (fun n d => n * base + d) 0 = n
  short : ∀ width, 0 < width → n < Nat.pow base width → values.length ≤ width
  front : values.head? = some 0 → values.length = 1

theorem Spelt.digit {c : Char} (legible : digitValue? base c = some n) :
    Spelt base n [c] [n] where
  legible := by rw [List.map_singleton, legible, List.map_singleton]
  filled := List.cons_ne_nil n []
  value := by simp
  short := fun _ positive _ => positive
  front := fun _ => rfl

/-- One more digit, behind a number that is not zero. -/
theorem Spelt.push {values : List Nat} {c : Char} {d : Nat} (spelt : Spelt base n s values)
    (positive : 0 < n) (legible : digitValue? base c = some d) :
    Spelt base (n * base + d) (s ++ [c]) (values ++ [d]) where
  legible := by simp [spelt.legible, legible]
  filled := by simp
  value := by simp [spelt.value]
  short := by
    intro width wide small
    obtain _ | _ | width := width
    · omega
    · have one : base ≤ n * base := Nat.le_mul_of_pos_left base positive
      have single : Nat.pow base (0 + 1) = base := Nat.pow_one base
      rw [single] at small
      omega
    · have fewer : n < Nat.pow base (width + 1) := by
        have step : Nat.pow base (width + 1 + 1) = Nat.pow base (width + 1) * base := rfl
        rw [step] at small
        exact Nat.lt_of_mul_lt_mul_right (Nat.lt_of_le_of_lt (Nat.le_add_right _ d) small)
      have length := spelt.short (width + 1) (Nat.succ_pos width) fewer
      simp only [List.length_append, List.length_singleton]
      omega
  front := by
    intro zero
    obtain ⟨v, vs, rfl⟩ := List.exists_cons_of_ne_nil spelt.filled
    obtain rfl : v = 0 := Option.some.inj zero
    obtain rfl : vs = [] := List.length_eq_zero_iff.1 (Nat.succ.inj (spelt.front rfl))
    have nothing := spelt.value
    simp at nothing
    omega

/-- **A number that is written digit by digit has values for its digits.** -/
theorem exists_spelt {write : Nat → List Char} {digit : Nat → Char} (large : 1 < base)
    (written : ∀ n, write n =
      if n < base then [digit n] else write (n / base) ++ [digit (n % base)])
    (legible : ∀ d, d < base → digitValue? base (digit d) = some d) (n : Nat) :
    ∃ values, Spelt base n (write n) values := by
  induction n using Nat.strongRecOn with
  | ind n ih =>
      rw [written]
      split
      · rename_i small
        exact ⟨[n], .digit (legible n small)⟩
      · rename_i big
        have positive : 0 < n / base := Nat.div_pos (Nat.le_of_not_lt big) (by omega)
        obtain ⟨values, spelt⟩ := ih (n / base) (Nat.div_lt_self (by omega) large)
        have last := legible (n % base) (Nat.mod_lt n (by omega))
        have more := spelt.push positive last
        rw [Nat.div_add_mod'] at more
        exact ⟨_, more⟩

theorem exists_spelt_digits (n : Nat) : ∃ values, Spelt 10 n (Decimal.digits n) values :=
  exists_spelt (by decide) (fun n => by rw [Decimal.digits]) (by decide) n

theorem exists_spelt_hexText (n : Nat) : ∃ values, Spelt 16 n (hexText n) values :=
  exists_spelt (by decide) (fun n => by rw [hexText]) (by decide) n

/-- What is no digit does not stand in a number. -/
theorem Spelt.not_mem {values : List Nat} {c : Char} (spelt : Spelt base n s values)
    (other : digitValue? base c = none) : c ∉ s := by
  intro member
  have value := List.mem_map_of_mem (f := digitValue? base) member
  rw [spelt.legible, other] at value
  obtain ⟨v, -, absent⟩ := List.mem_map.1 value
  cases absent

theorem digits_eq_nil (ends : NoDigit base t) : digits base t = ([], t) := by
  cases t with
  | nil => rfl
  | cons c t =>
      have other : digitValue? base c = none := ends
      simp [digits, other]

theorem digits_append_of_legible {values : List Nat}
    (legible : s.map (digitValue? base) = values.map some) (ends : NoDigit base t) :
    digits base (s ++ t) = (values, t) := by
  induction s generalizing values with
  | nil =>
      obtain rfl : values = [] := List.map_eq_nil_iff.1 legible.symm
      exact digits_eq_nil ends
  | cons c s ih =>
      cases values with
      | nil => cases legible
      | cons v values =>
          obtain ⟨first, rest⟩ := List.cons.inj legible
          simp [digits, first, ih rest]

/-- **A number is read back, whatever follows it that is no digit.** -/
theorem number?_append (spelt : ∃ values, Spelt base n s values) (ends : NoDigit base t)
    (small : n < bound) (fits : ∀ width ∈ most, 0 < width ∧ n < Nat.pow base width) :
    number? base bound most zeros (s ++ t) = some (n, t) := by
  obtain ⟨values, spelt⟩ := spelt
  have few : most.any (· < values.length) = false := by
    rw [Option.any_eq_false]
    intro width most
    have := spelt.short width (fits width most).1 (fits width most).2
    simpa using this
  have front : ¬ (values.head? = some 0 ∧ 1 < values.length) := by
    rintro ⟨zero, many⟩
    exact absurd (spelt.front zero) (Nat.ne_of_gt many)
  rw [number?, digits_append_of_legible spelt.legible ends]
  simp [spelt.filled, spelt.value, few, small, front]

theorem byte?_append (b : UInt8) (ends : NoDigit 10 t) : byte? (byteText b ++ t) = some (b, t) := by
  have small := b.toNat_lt
  have read : number? 10 256 (some 3) false (byteText b ++ t) = some (b.toNat, t) :=
    number?_append (exists_spelt_digits b.toNat) ends small (by simp; omega)
  simp [byte?, read]

theorem group?_append (g : UInt16) (ends : NoDigit 16 t) :
    group? (hexText g.toNat ++ t) = some (g, t) := by
  have small := g.toNat_lt
  have read : number? 16 65536 (some 4) true (hexText g.toNat ++ t) = some (g.toNat, t) :=
    number?_append (exists_spelt_hexText g.toNat) ends small (by simp; omega)
  simp [group?, read]

theorem port?_digits (port : UInt16) :
    port? (':' :: Decimal.digits port.toNat) = some (port, []) := by
  have small := port.toNat_lt
  have read : number? 10 65536 none true (Decimal.digits port.toNat ++ []) =
      some (port.toNat, []) :=
    number?_append (exists_spelt_digits port.toNat) rfl small nofun
  rw [List.append_nil] at read
  simp [port?, char?, read]

theorem dotted?_append (a b c d : UInt8) (ends : NoDigit 10 t) :
    dotted? (dottedText a b c d ++ t) = some ((a, b, c, d), t) := by
  have dot (s : List Char) : NoDigit 10 ('.' :: s) := noDigit_cons (by decide)
  simp [dottedText, dotted?, byte?_append _ (dot _), byte?_append _ ends, char?]

/-! ## Groups -/

/-- The text of groups that stand behind another. -/
def furtherText (gs : List UInt16) : List Char := gs.flatMap fun g => ':' :: hexText g.toNat

theorem groupsText_cons (g : UInt16) (gs : List UInt16) :
    groupsText (g :: gs) = hexText g.toNat ++ furtherText gs := by
  induction gs generalizing g with
  | nil => simp [groupsText, furtherText]
  | cons h gs ih => simp [groupsText, ih, furtherText]

theorem noDigit_furtherText (gs : List UInt16) (ends : NoDigit 16 t) :
    NoDigit 16 (furtherText gs ++ t) := by
  cases gs with
  | nil => exact ends
  | cons g gs => exact noDigit_cons (by decide)

theorem dot_not_mem_furtherText (gs : List UInt16) : '.' ∉ furtherText gs := by
  intro dot
  obtain ⟨g, -, here⟩ := List.mem_flatMap.1 dot
  obtain ⟨values, spelt⟩ := exists_spelt_hexText g.toNat
  rcases List.mem_cons.1 here with colon | digit
  · cases colon
  · exact spelt.not_mem (by decide) digit

theorem dot_not_mem_groupsText (gs : List UInt16) : '.' ∉ groupsText gs := by
  cases gs with
  | nil => exact List.not_mem_nil
  | cons g gs =>
      obtain ⟨values, spelt⟩ := exists_spelt_hexText g.toNat
      rw [groupsText_cons, List.mem_append, not_or]
      exact ⟨spelt.not_mem (by decide), dot_not_mem_furtherText gs⟩

/-- Where no dot follows, groups are read one by one. -/
theorem groups_succ (m : Nat) (isFirst : Bool) (noDot : '.' ∉ s) :
    groups (m + 1) isFirst s = match (afterColon? isFirst s).bind group? with
      | some (g, r) => (g :: (groups m false r).1, (groups m false r).2.1, (groups m false r).2.2)
      | none => ([], false, s) := by
  have bytes : (afterColon? isFirst s).bind dotted? = none := by
    cases isFirst with
    | true => exact dotted?_eq_none noDot
    | false =>
        rw [Option.bind_eq_none_iff]
        intro r read
        rw [eq_cons_of_char? read] at noDot
        exact dotted?_eq_none fun dot => noDot (List.mem_cons_of_mem ':' dot)
  cases read : (afterColon? isFirst s).bind group? with
  | none => simp [groups, bytes, read]
  | some y => simp [groups, bytes, read]

/-- A text that ends, or goes on with `::`. -/
def Breaks (t : List Char) : Prop := t = [] ∨ ∃ r, t = ':' :: ':' :: r

theorem Breaks.noDigit (breaks : Breaks t) : NoDigit 16 t := by
  rcases breaks with rfl | ⟨r, rfl⟩
  · rfl
  · exact noDigit_cons (by decide)

theorem groups_of_breaks (m : Nat) (isFirst : Bool) (breaks : Breaks t) (noDot : '.' ∉ t) :
    groups m isFirst t = ([], false, t) := by
  have nothing : (afterColon? isFirst t).bind group? = none := by
    rcases breaks with rfl | ⟨r, rfl⟩ <;> cases isFirst <;> rfl
  cases m with
  | zero => rfl
  | succ m => rw [groups_succ m isFirst noDot, nothing]

theorem groups_furtherText {m : Nat} {gs : List UInt16} (few : gs.length ≤ m)
    (breaks : Breaks t) (noDot : '.' ∉ furtherText gs ++ t) :
    groups m false (furtherText gs ++ t) = (gs, false, t) := by
  induction gs generalizing m with
  | nil => exact groups_of_breaks m false breaks noDot
  | cons g gs ih =>
      obtain _ | m := m
      · cases few
      · have rest : '.' ∉ furtherText gs ++ t := by
          intro dot
          apply noDot
          simp only [furtherText, List.flatMap_cons, List.append_assoc] at dot ⊢
          exact List.mem_append_right _ dot
        have written : furtherText (g :: gs) ++ t =
            ':' :: (hexText g.toNat ++ (furtherText gs ++ t)) := by
          simp [furtherText]
        have read := group?_append g (noDigit_furtherText gs breaks.noDigit)
        rw [written] at noDot ⊢
        rw [groups_succ m false noDot]
        simp [afterColon?, char?, read, ih (Nat.le_of_succ_le_succ few) rest]

/-- **Groups are read back, up to where the text ends or `::` stands.** -/
theorem groups_groupsText {m : Nat} {gs : List UInt16} (few : gs.length ≤ m)
    (breaks : Breaks t) (noDot : '.' ∉ groupsText gs ++ t) :
    groups m true (groupsText gs ++ t) = (gs, false, t) := by
  cases gs with
  | nil => exact groups_of_breaks m true breaks noDot
  | cons g gs =>
      obtain _ | m := m
      · cases few
      · rw [groupsText_cons, List.append_assoc] at noDot ⊢
        have rest : '.' ∉ furtherText gs ++ t := fun dot => noDot (List.mem_append_right _ dot)
        have read := group?_append g (noDigit_furtherText gs breaks.noDigit)
        rw [groups_succ m true noDot]
        simp [afterColon?, read, groups_furtherText (Nat.le_of_succ_le_succ few) breaks rest]

/-! ## Runs of zeros -/

/-- A place and a length at which a list holds zeros. -/
def ZerosAt (all : List UInt16) (run : Nat × Nat) : Prop :=
  ∃ a b, a.length = run.1 ∧ all = a ++ List.replicate run.2 0 ++ b

/-- A place and a length at which a list ends in zeros. -/
def ZerosUpTo (before : List UInt16) (run : Nat × Nat) : Prop :=
  ∃ a, a.length = run.1 ∧ before = a ++ List.replicate run.2 0

theorem ZerosUpTo.zerosAt {before : List UInt16} {run : Nat × Nat}
    (reaches : ZerosUpTo before run) (gs : List UInt16) : ZerosAt (before ++ gs) run := by
  obtain ⟨a, start, rfl⟩ := reaches
  exact ⟨a, gs, start, rfl⟩

theorem zerosUpTo_push {before : List UInt16} {run : Nat × Nat}
    (reaches : run.2 = 0 ∨ ZerosUpTo before run) :
    ZerosUpTo (before ++ [0])
      (if run.2 = 0 then (before.length, 1) else (run.1, run.2 + 1)) := by
  split
  · exact ⟨before, rfl, rfl⟩
  · obtain ⟨a, start, rfl⟩ := reaches.resolve_left (by assumption)
    exact ⟨a, start, by simp [List.replicate_succ']⟩

/-- Both the run that reaches up to a group and the longest one before are runs of zeros. -/
theorem zerosAt_longestZeros_of (before gs : List UInt16) (current longest : Nat × Nat)
    (reaches : current.2 = 0 ∨ ZerosUpTo before current)
    (kept : ZerosAt (before ++ gs) longest) :
    ZerosAt (before ++ gs) (longestZeros gs before.length current longest) := by
  induction gs generalizing before current longest with
  | nil => exact kept
  | cons g gs ih =>
      have next : before ++ g :: gs = (before ++ [g]) ++ gs := by simp
      have place : before.length + 1 = (before ++ [g]).length := by simp
      rw [next] at kept ⊢
      rw [longestZeros, place]
      split
      · rename_i zero
        subst zero
        have grown := zerosUpTo_push reaches
        dsimp only
        generalize (if current.2 = 0 then (before.length, 1) else (current.1, current.2 + 1)) =
          grownRun at grown ⊢
        refine ih (before ++ [0]) _ _ (Or.inr grown) ?_
        split
        · exact grown.zerosAt gs
        · exact kept
      · exact ih (before ++ [g]) (0, 0) longest (Or.inl rfl) kept

/-- **What `longestZeros` gives is a run of zeros.** -/
theorem zerosAt_longestZeros (gs : List UInt16) :
    ZerosAt gs (longestZeros gs 0 (0, 0) (0, 0)) :=
  zerosAt_longestZeros_of [] gs (0, 0) (0, 0) (Or.inl rfl) ⟨[], gs, rfl, rfl⟩

/-! ## Whole addresses -/

theorem v6?_groupsText {gs : List UInt16} (eight : gs.length = 8) :
    v6? (groupsText gs) = (ofGroups? gs).map (·, []) := by
  have noDot : '.' ∉ groupsText gs ++ [] := by simpa using dot_not_mem_groupsText gs
  have read := groups_groupsText (m := 8) (Nat.le_of_eq eight) (Or.inl rfl) noDot
  rw [List.append_nil] at read
  simp [v6?, read, eight]

/-- The groups that `::` stands for are filled in, as many as are missing. -/
theorem v6?_shortened (before after : List UInt16) {k : Nat} (several : 0 < k)
    (eight : before.length + k + after.length = 8) :
    v6? (groupsText before ++ [':', ':'] ++ groupsText after) =
      (ofGroups? (before ++ List.replicate k 0 ++ after)).map (·, []) := by
  have noDot : '.' ∉ groupsText before ++ ':' :: ':' :: groupsText after := by
    simp [dot_not_mem_groupsText]
  have noDot' : '.' ∉ groupsText after ++ [] := by simpa using dot_not_mem_groupsText after
  have front := groups_groupsText (m := 8) (by omega) (Or.inr ⟨_, rfl⟩) noDot
  have back := groups_groupsText (m := 7 - before.length) (by omega) (Or.inl rfl) noDot'
  have missing : 8 - before.length - after.length = k := by omega
  rw [List.append_nil] at back
  have short : before.length ≠ 8 := by omega
  simp [v6?, front, back, short, char?, missing]

theorem uint16_of_bytes (g : UInt16) :
    (g >>> 8).toUInt8.toUInt16 * 256 + g.toUInt8.toUInt16 = g := by
  apply UInt16.toNat_inj.1
  have small := g.toNat_lt
  simp [Nat.shiftRight_eq_div_pow]
  omega

/-- The last two groups are read from their four bytes. -/
theorem v6?_mapped (g h : UInt16) :
    v6? ([':', ':', 'f', 'f', 'f', 'f', ':'] ++
        dottedText (g >>> 8).toUInt8 g.toUInt8 (h >>> 8).toUInt8 h.toUInt8) =
      some (.v6 0 0 0 0 0 0xFFFF g h, []) := by
  have bytes := dotted?_append (g >>> 8).toUInt8 g.toUInt8 (h >>> 8).toUInt8 h.toUInt8
    (t := []) rfl
  rw [List.append_nil] at bytes
  generalize dottedText (g >>> 8).toUInt8 g.toUInt8 (h >>> 8).toUInt8 h.toUInt8 = written at bytes
  have four : (afterColon? false (':' :: written)).bind dotted? = some (_, []) := bytes
  have last : groups 6 false (':' :: written) = ([g, h], true, []) := by
    rw [groups, four]
    simp only [if_pos, Nat.zero_lt_succ, uint16_of_bytes]
  have noBytes : dotted? ('f' :: 'f' :: 'f' :: 'f' :: ':' :: written) = none := rfl
  have mark : group? ('f' :: 'f' :: 'f' :: 'f' :: ':' :: written) =
      some (0xFFFF, ':' :: written) := rfl
  have back : groups 7 true ('f' :: 'f' :: 'f' :: 'f' :: ':' :: written) =
      ([0xFFFF, g, h], true, []) := by
    rw [groups]
    simp only [afterColon?, if_pos, Option.bind_some, noBytes, ite_self, mark, last]
  have front : groups 8 true (':' :: ':' :: 'f' :: 'f' :: 'f' :: 'f' :: ':' :: written) =
      ([], false, ':' :: ':' :: 'f' :: 'f' :: 'f' :: 'f' :: ':' :: written) := rfl
  simp [v6?, front, char?, back, ofGroups?]

/-- **The text of an address of version 6 is read back as that address.** -/
theorem v6?_text (a b c d e f g h : UInt16) :
    v6? (IpAddr.v6 a b c d e f g h).text = some (.v6 a b c d e f g h, []) := by
  unfold IpAddr.text
  split
  · cases ‹IpAddr.v6 a b c d e f g h = _›
  · rename_i same
    cases same
    exact v6?_mapped _ _
  · rename_i same
    obtain ⟨rfl, rfl, rfl, rfl, rfl, rfl, rfl, rfl⟩ := IpAddr.v6.inj same
    have zeros := zerosAt_longestZeros [a, b, c, d, e, f, g, h]
    dsimp only
    generalize longestZeros [a, b, c, d, e, f, g, h] 0 (0, 0) (0, 0) = run at zeros ⊢
    split
    · rename_i several
      obtain ⟨before, after, start, all⟩ := zeros
      have eight := congrArg List.length all
      simp only [List.length_cons, List.length_nil, List.length_append, List.length_replicate]
        at eight
      have read := v6?_shortened before after (by omega) eight.symm
      have front : (before ++ List.replicate run.2 0 ++ after).take run.1 = before := by
        rw [List.append_assoc, ← start, List.take_left]
      have back : (before ++ List.replicate run.2 0 ++ after).drop (run.1 + run.2) = after := by
        rw [← start]
        exact List.drop_left' (by simp)
      rw [← all] at front back read
      rw [front, back, read]
      rfl
    · exact v6?_groupsText rfl

end StaticPreview.Address
