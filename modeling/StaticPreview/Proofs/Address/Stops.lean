/-
# StaticPreview.Proofs.Address.Stops -- where the readers of addresses stop

A reader takes a part from the front of a text.  To a character that it never takes it is
all one whether that character follows or nothing does: the reader gives the same value
and leaves the same rest, with the character and what is behind it (`StopsAt`).

Each of the readers stops at any character that it has no use for: those of numbers at
what is no digit, those of bytes with dots also at what is no dot, and those of groups at
what is no colon either.  Readers put one after another stop where each of them does
(`StopsAt.bind`, `StopsAt.after`).
-/
import StaticPreview.Address.Parser

namespace StaticPreview.Address

open StaticPreview.Text

/-- A reader that leaves the end of a text, and to which `c` is like the end. -/
structure StopsAt (c : Char) {α : Type} (r : List Char → Option (α × List Char)) : Prop where
  leaves : ∀ {s x t}, r s = some (x, t) → t <:+ s
  stops : ∀ s u, r (s ++ c :: u) = (r s).map fun y => (y.1, y.2 ++ c :: u)

variable {α β : Type} {c d : Char} {r : List Char → Option (α × List Char)} {s t : List Char}

theorem stopsAt_none : StopsAt c fun _ => (none : Option (α × List Char)) :=
  ⟨nofun, fun _ _ => rfl⟩

theorem stopsAt_some (x : α) : StopsAt c fun s => some (x, s) where
  leaves := by
    intro s y t h
    obtain ⟨-, rfl⟩ := Prod.mk.inj (Option.some.inj h)
    exact List.suffix_refl s
  stops := fun _ _ => rfl

namespace StopsAt

/-- Readers one after another. -/
theorem bind {f : α → List Char → Option (β × List Char)} (first : StopsAt c r)
    (next : ∀ x, StopsAt c (f x)) : StopsAt c fun s => (r s).bind fun y => f y.1 y.2 where
  leaves := by
    intro s x t h
    obtain ⟨y, read, behind⟩ := Option.bind_eq_some_iff.1 h
    exact ((next y.1).leaves behind).trans (first.leaves read)
  stops := by
    intro s u
    rw [first.stops]
    cases read : r s with
    | none => rfl
    | some y => exact (next y.1).stops y.2 u

theorem map (first : StopsAt c r) (f : α → β) :
    StopsAt c fun s => (r s).map fun y => (f y.1, y.2) where
  leaves := by
    intro s x t h
    obtain ⟨y, read, same⟩ := Option.map_eq_some_iff.1 h
    obtain ⟨-, rfl⟩ := Prod.mk.inj same
    exact first.leaves read
  stops := by
    intro s u
    rw [first.stops]
    cases r s <;> rfl

end StopsAt

/-! ## Single characters -/

theorem eq_cons_of_char? (h : char? d s = some t) : s = d :: t := by
  cases s with
  | nil => cases h
  | cons x s =>
      simp only [char?] at h
      split at h
      · rename_i same
        rw [same, Option.some.inj h]
      · cases h

theorem char?_append (other : d ≠ c) (s u : List Char) :
    char? d (s ++ c :: u) = (char? d s).map (· ++ c :: u) := by
  cases s with
  | nil => simp [char?, Ne.symm other]
  | cons x s =>
      simp only [List.cons_append, char?]
      split <;> rfl

/-- A reader behind a character. -/
theorem StopsAt.after (other : d ≠ c) (next : StopsAt c r) :
    StopsAt c fun s => (char? d s).bind r where
  leaves := by
    intro s x t h
    obtain ⟨rest, read, behind⟩ := Option.bind_eq_some_iff.1 h
    rw [eq_cons_of_char? read]
    exact (next.leaves behind).trans (List.suffix_cons d rest)
  stops := by
    intro s u
    rw [char?_append other]
    cases char? d s with
    | none => rfl
    | some rest => exact next.stops rest u

/-! ## Numbers -/

variable {base : Nat}

theorem digits_append (other : digitValue? base c = none) (s u : List Char) :
    digits base (s ++ c :: u) = ((digits base s).1, (digits base s).2 ++ c :: u) := by
  induction s with
  | nil => simp [digits, other]
  | cons x s ih =>
      rw [List.cons_append, digits, digits]
      cases digitValue? base x with
      | none => rfl
      | some v =>
          dsimp only
          rw [ih]

theorem digits_suffix (base : Nat) (s : List Char) : (digits base s).2 <:+ s := by
  induction s with
  | nil => exact List.suffix_refl []
  | cons x s ih =>
      rw [digits]
      cases digitValue? base x with
      | none => exact List.suffix_refl _
      | some v => exact ih.trans (List.suffix_cons x s)

theorem stopsAt_number (other : digitValue? base c = none) (bound : Nat) (most : Option Nat)
    (zeros : Bool) : StopsAt c (number? base bound most zeros) where
  leaves := by
    intro s n t h
    rw [number?] at h
    dsimp only at h
    split at h
    · cases h
    · obtain ⟨-, rfl⟩ := Prod.mk.inj (Option.some.inj h)
      exact digits_suffix base s
  stops := by
    intro s u
    rw [number?, number?, digits_append other]
    dsimp only
    split <;> rfl

theorem stopsAt_byte (other : digitValue? 10 c = none) : StopsAt c byte? :=
  (stopsAt_number other 256 (some 3) false).map Nat.toUInt8

theorem stopsAt_dotted (other : digitValue? 10 c = none) (noDot : '.' ≠ c) :
    StopsAt c dotted? := by
  have byte := stopsAt_byte other
  exact byte.bind fun a => .after noDot <| byte.bind fun b => .after noDot <|
    byte.bind fun d => .after noDot <| byte.bind fun e => stopsAt_some (a, b, d, e)

/-- Four bytes with dots between them hold a dot. -/
theorem dotted?_eq_none (noDot : '.' ∉ s) : dotted? s = none := by
  rw [Option.eq_none_iff_forall_ne_some]
  intro y read
  obtain ⟨⟨a, t⟩, first, read⟩ := Option.bind_eq_some_iff.1 read
  obtain ⟨rest, dot, -⟩ := Option.bind_eq_some_iff.1 read
  have suffix := (stopsAt_byte (c := ':') (by decide)).leaves first
  rw [eq_cons_of_char? dot] at suffix
  exact noDot (suffix.subset List.mem_cons_self)

/-! ## Groups -/

theorem stopsAt_group (other : digitValue? 16 c = none) : StopsAt c group? :=
  (stopsAt_number other 65536 (some 4) true).map Nat.toUInt16

/-- A reader behind the colon that is due. -/
theorem StopsAt.afterColon (noColon : ':' ≠ c) (next : StopsAt c r) (isFirst : Bool) :
    StopsAt c fun s => (afterColon? isFirst s).bind r := by
  cases isFirst with
  | true => exact next
  | false => exact .after noColon next

/-- What `groups` gives, as a reader. -/
def groups? (most : Nat) (isFirst : Bool) (s : List Char) :
    Option ((List UInt16 × Bool) × List Char) :=
  some (((groups most isFirst s).1, (groups most isFirst s).2.1), (groups most isFirst s).2.2)

theorem stopsAt_groups (decimal : digitValue? 10 c = none) (other : digitValue? 16 c = none)
    (noDot : '.' ≠ c) (noColon : ':' ≠ c) (most : Nat) (isFirst : Bool) :
    StopsAt c (groups? most isFirst) := by
  induction most generalizing isFirst with
  | zero => exact stopsAt_some ([], false)
  | succ most ih =>
      have four : StopsAt c fun s =>
          if 0 < most then (afterColon? isFirst s).bind dotted? else none := by
        split
        · exact (stopsAt_dotted decimal noDot).afterColon noColon isFirst
        · exact stopsAt_none
      have one := (stopsAt_group other).afterColon noColon isFirst
      constructor
      · intro s x t h
        obtain ⟨-, rfl⟩ := Prod.mk.inj (Option.some.inj h)
        rw [groups]
        dsimp only
        split
        · rename_i read
          exact four.leaves read
        · split
          · rename_i g rest read
            exact ((ih false).leaves rfl).trans (one.leaves read)
          · exact List.suffix_refl s
      · intro s u
        have bytes := four.stops s u
        have group := one.stops s u
        rw [groups?, groups?, groups, groups]
        dsimp only
        rw [bytes, group]
        cases (if 0 < most then (afterColon? isFirst s).bind dotted? else none) with
        | some y => rfl
        | none =>
            cases (afterColon? isFirst s).bind group? with
            | none => rfl
            | some y =>
                have rest := Option.some.inj ((ih false).stops y.2 u)
                simp only [Prod.mk.injEq] at rest
                obtain ⟨⟨groups, dotted⟩, left⟩ := rest
                simp only [Option.map_none, Option.map_some, groups, dotted, left]

/-! ## Whole addresses -/

/-- An address of version 6 behind its first groups. -/
def v6Behind? (head : List UInt16 × Bool) (s : List Char) : Option (IpAddr × List Char) :=
  if head.1.length = 8 then (ofGroups? head.1).map (·, s)
  else if head.2 then none
  else (char? ':' s).bind fun s => (char? ':' s).bind fun s =>
    (groups? (7 - head.1.length) true s).bind fun tail =>
      let zeros := List.replicate (8 - head.1.length - tail.1.1.length) 0
      (ofGroups? (head.1 ++ zeros ++ tail.1.1)).map (·, tail.2)

theorem v6?_eq (s : List Char) : v6? s = (groups? 8 true s).bind fun y => v6Behind? y.1 y.2 :=
  rfl

theorem stopsAt_ofGroups (groups : List UInt16) :
    StopsAt c fun s => (ofGroups? groups).map (·, s) := by
  cases ofGroups? groups with
  | none => exact stopsAt_none
  | some ip => exact stopsAt_some ip

theorem stopsAt_v6 (decimal : digitValue? 10 c = none) (other : digitValue? 16 c = none)
    (noDot : '.' ≠ c) (noColon : ':' ≠ c) : StopsAt c v6? := by
  have groups := stopsAt_groups decimal other noDot noColon
  have behind (head : List UInt16 × Bool) : StopsAt c (v6Behind? head) := by
    unfold v6Behind?
    split
    · exact stopsAt_ofGroups head.1
    · split
      · exact stopsAt_none
      · have tail := (groups (7 - head.1.length) true).bind fun tail => stopsAt_ofGroups
          (head.1 ++ List.replicate (8 - head.1.length - tail.1.length) 0 ++ tail.1)
        exact .after noColon (.after noColon tail)
  rw [funext v6?_eq]
  exact (groups 8 true).bind behind

theorem stopsAt_scope (other : digitValue? 10 c = none) (noPercent : '%' ≠ c) :
    StopsAt c fun s => some (scope s) := by
  have number := (stopsAt_number other 4294967296 none true).after noPercent
  constructor
  · intro s x t h
    simp only [scope, Option.some.injEq] at h
    split at h
    · rename_i read
      obtain ⟨-, rfl⟩ := Prod.mk.inj h
      exact number.leaves read
    · obtain ⟨-, rfl⟩ := Prod.mk.inj h
      exact List.suffix_refl s
  · intro s u
    have read := number.stops s u
    rw [scope, scope, read]
    cases (char? '%' s).bind (number? 10 4294967296 none true) <;> rfl

/-- An address of version 6 with its scope, up to the bracket behind them. -/
def scoped? (s : List Char) : Option ((IpAddr × UInt32) × List Char) :=
  (v6? s).bind fun y => some ((y.1, (scope y.2).1), (scope y.2).2)

theorem stopsAt_scoped : StopsAt ']' scoped? :=
  (stopsAt_v6 (by decide) (by decide) (by decide) (by decide)).bind fun ip =>
    (stopsAt_scope (by decide) (by decide)).bind fun zone => stopsAt_some (ip, zone)

end StaticPreview.Address
