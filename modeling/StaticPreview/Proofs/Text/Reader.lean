/-
# StaticPreview.Proofs.Text.Reader -- reading back what stands at the front of a text

A reader of several parts takes them one behind the other (`bind_of_eq_some`), so a text
that was put together from parts is read by taking each part off its front, whatever
stands behind.  A text made of pieces is read piece by piece, up to where the reader of
the pieces fails (`many_flatMap_append`), also when a piece ends only before the next one or
before what stands behind all (`many_flatMap_append_of_ready`).

A reader put together from readers that take only characters of a kind takes only these
(`Within`), so a whole text that it reads is made of them (`forall_mem_of_all?`).
-/
import Mathlib.Data.List.TakeWhile
import StaticPreview.Text.Reader

namespace StaticPreview.Text.Reader

variable {α β γ : Type} {r : Reader α} {s t : List Char} {a : α}

theorem bind_of_eq_some {f : α → Reader β} (first : r s = some (a, t)) : (r >>= f) s = f a t := by
  show (r s).bind (fun x => f x.1 x.2) = f a t
  rw [first]
  rfl

theorem orElse_of_eq_none {x y : Reader α} (first : x s = none) : (x <|> y) s = y s := by
  show (x s).orElse (fun _ => y s) = y s
  rw [first]
  rfl

theorem optional_of_eq_none (first : r s = none) : optional r s = some (none, s) := by
  show ((r s).bind _ : Option _).orElse _ = _
  rw [first]
  rfl

theorem optional_of_eq_some (first : r s = some (a, t)) : optional r s = some (some a, t) := by
  show ((r s).bind _ : Option _).orElse _ = _
  rw [first]
  rfl

theorem char_cons (c : Char) (rest : List Char) : char c (c :: rest) = some ((), rest) := by
  rw [char, if_pos rfl]

theorem char_of_ne {c d : Char} (other : d ≠ c) (rest : List Char) : char c (d :: rest) = none := by
  rw [char, if_neg other]

theorem exactly_append (text rest : List Char) :
    exactly text (text ++ rest) = some ((), rest) := by
  rw [exactly, if_pos (List.isPrefixOf_iff_prefix.2 (List.prefix_append text rest)),
    List.drop_left]

theorem exactly_of_ne {c d : Char} (other : d ≠ c) (text rest : List Char) :
    exactly (c :: text) (d :: rest) = none := by
  have front : (c :: text).isPrefixOf (d :: rest) = false := by
    simp [List.isPrefixOf, Ne.symm other]
  rw [exactly, front]
  rfl

/-- A run ends before what does not begin with a character of its kind. -/
theorem run_append {p : Char → Bool} (all : ∀ d ∈ s, p d = true)
    (stop : ∀ c ∈ t.head?, p c = false) : run p (s ++ t) = some (s, t) := by
  cases t with
  | nil =>
      rw [List.append_nil, run, List.takeWhile_eq_self_iff.2 all, List.dropWhile_eq_nil_iff.2 all]
  | cons c r =>
      have ended : p c = false := stop c rfl
      have taken : (s ++ c :: r).takeWhile p = s := by
        rw [List.takeWhile_append_of_pos all, List.takeWhile_cons, ended]
        exact List.append_nil s
      have left : (s ++ c :: r).dropWhile p = c :: r := by
        rw [List.dropWhile_append_of_pos all, List.dropWhile_cons, ended]
        rfl
      rw [run, taken, left]

/-- So does one that must not be empty. -/
theorem run1_append {p : Char → Bool} (filled : s ≠ []) (all : ∀ d ∈ s, p d = true)
    (stop : ∀ c ∈ t.head?, p c = false) : run1 p (s ++ t) = some (s, t) := by
  obtain ⟨d, s, rfl⟩ := List.exists_cons_of_ne_nil filled
  have first : satisfying p (d :: s ++ t) = some (d, s ++ t) :=
    if_pos (all d List.mem_cons_self)
  have others := run_append (fun x member => all x (List.mem_cons_of_mem _ member)) stop
  rw [run1, bind_of_eq_some first, bind_of_eq_some others]
  rfl

/-! ## Many pieces -/

variable {write : β → List Char} {read : β → α} {tail : List Char}

theorem manyUpTo_flatMap_append {ready : List Char → Prop}
    (reads : ∀ b rest, ready rest → r (write b ++ rest) = some (read b, rest))
    (starts : ∀ b rest, ready (write b ++ rest)) (filled : ∀ b, write b ≠ [])
    (ends : ready tail) (stops : r tail = none) (bs : List β) {n : Nat} (enough : bs.length ≤ n) :
    manyUpTo r n (bs.flatMap write ++ tail) = some (bs.map read, tail) := by
  induction bs generalizing n with
  | nil =>
      cases n with
      | zero => rfl
      | succ n => simp [manyUpTo, stops]
  | cons b bs ih =>
      cases n with
      | zero => simp at enough
      | succ n =>
          have next : ready (bs.flatMap write ++ tail) := by
            cases bs with
            | nil => exact ends
            | cons b' bs =>
                rw [List.flatMap_cons, List.append_assoc]
                exact starts b' _
          have taken : (bs.flatMap write ++ tail).length <
              (write b ++ (bs.flatMap write ++ tail)).length := by
            have := List.length_pos_iff.2 (filled b)
            simp only [List.length_append]
            omega
          rw [List.flatMap_cons, List.append_assoc, manyUpTo, reads b _ next]
          dsimp only
          rw [if_pos taken, ih (Nat.le_of_succ_le_succ enough)]
          rfl

theorem length_le_length_flatMap (filled : ∀ b, write b ≠ []) (bs : List β) :
    bs.length ≤ (bs.flatMap write).length := by
  induction bs with
  | nil => exact Nat.le_refl 0
  | cons b bs ih =>
      have := List.length_pos_iff.2 (filled b)
      rw [List.flatMap_cons, List.length_append, List.length_cons]
      omega

/-- **Pieces that each read back before a text that is ready read back in a row**, if the
beginning of a piece is ready too. -/
theorem many_flatMap_append_of_ready (ready : List Char → Prop)
    (reads : ∀ b rest, ready rest → r (write b ++ rest) = some (read b, rest))
    (starts : ∀ b rest, ready (write b ++ rest)) (filled : ∀ b, write b ≠ [])
    (ends : ready tail) (stops : r tail = none) (bs : List β) :
    many r (bs.flatMap write ++ tail) = some (bs.map read, tail) := by
  apply manyUpTo_flatMap_append reads starts filled ends stops
  have := length_le_length_flatMap filled bs
  rw [List.length_append]
  omega

/-- Pieces that each read back from the front of any text read back in a row. -/
theorem many_flatMap_append
    (reads : ∀ b rest, r (write b ++ rest) = some (read b, rest)) (filled : ∀ b, write b ≠ [])
    (stops : r tail = none) (bs : List β) :
    many r (bs.flatMap write ++ tail) = some (bs.map read, tail) :=
  many_flatMap_append_of_ready (fun _ => True) (fun b rest _ => reads b rest)
    (fun _ _ => trivial) filled trivial stops bs

/-! ## What is taken -/

/-- Whether a reader takes nothing but characters of a kind. -/
def Within (p : Char → Bool) (r : Reader α) : Prop :=
  ∀ s a t, r s = some (a, t) → ∃ u, s = u ++ t ∧ ∀ c ∈ u, p c = true

variable {p : Char → Bool}

theorem within_pure (a : α) : Within p (pure a : Reader α) := by
  intro s b t read
  obtain ⟨-, rfl⟩ := Prod.mk.inj (Option.some.inj read)
  exact ⟨[], rfl, by simp⟩

theorem within_refuse : Within p (refuse : Reader α) := by
  intro s a t read
  cases read

theorem within_bind {f : α → Reader β} (first : Within p r) (rest : ∀ a, Within p (f a)) :
    Within p (r >>= f) := by
  intro s b t read
  obtain ⟨⟨a, left⟩, taken, behind⟩ := Option.bind_eq_some_iff.1 read
  obtain ⟨u, rfl, front⟩ := first s a left taken
  obtain ⟨w, rfl, back⟩ := rest a left b t behind
  refine ⟨u ++ w, (List.append_assoc u w t).symm, ?_⟩
  intro c member
  exact (List.mem_append.1 member).elim (front c) (back c)

theorem within_optional (inner : Within p r) : Within p (optional r) := by
  intro s a t read
  cases taken : r s with
  | some x =>
      obtain ⟨b, left⟩ := x
      have eq : optional r s = some (some b, left) := by
        show ((r s).bind _ : Option _).orElse _ = _
        rw [taken]
        rfl
      obtain ⟨-, rfl⟩ := Prod.mk.inj (Option.some.inj (eq.symm.trans read))
      exact inner s b left taken
  | none =>
      obtain ⟨-, rfl⟩ := Prod.mk.inj (Option.some.inj ((optional_of_eq_none taken).symm.trans read))
      exact ⟨[], rfl, by simp⟩

theorem within_satisfying {q : Char → Bool} (kind : ∀ c, q c = true → p c = true) :
    Within p (satisfying q) := by
  intro s a t read
  cases s with
  | nil => cases read
  | cons c rest =>
      rw [satisfying] at read
      split at read
      · rename_i holds
        obtain ⟨rfl, rfl⟩ := Prod.mk.inj (Option.some.inj read)
        exact ⟨[c], rfl, by simpa using kind c holds⟩
      · cases read

theorem within_char {c : Char} (kind : p c = true) : Within p (char c) := by
  intro s a t read
  cases s with
  | nil => cases read
  | cons d rest =>
      rw [char] at read
      split at read
      · rename_i same
        subst same
        obtain ⟨-, rfl⟩ := Prod.mk.inj (Option.some.inj read)
        exact ⟨[d], rfl, by simpa using kind⟩
      · cases read

theorem within_run {q : Char → Bool} (kind : ∀ c, q c = true → p c = true) :
    Within p (run q) := by
  intro s a t read
  obtain ⟨-, rfl⟩ := Prod.mk.inj (Option.some.inj read)
  refine ⟨s.takeWhile q, List.takeWhile_append_dropWhile.symm, ?_⟩
  intro c member
  exact kind c (List.mem_takeWhile_imp member)

theorem within_run1 {q : Char → Bool} (kind : ∀ c, q c = true → p c = true) :
    Within p (run1 q) :=
  within_bind (within_satisfying kind) fun _ => within_bind (within_run kind) fun _ => within_pure _

theorem forall_mem_of_all? (within : Within p r) (read : all? r s = some a) :
    ∀ c ∈ s, p c = true := by
  unfold all? at read
  split at read
  · rename_i taken
    obtain ⟨u, rfl, all⟩ := within s _ _ taken
    simpa using all
  · cases read

end StaticPreview.Text.Reader
