/-
# StaticPreview.Proofs.Path -- what taking a name below a path does to its components

A *plain* name is one that an entry of a directory can have and that no system
reads as anything else: not empty, no dots alone, no solidus, no backslash and no
zero.  Taking a plain name below a path, whatever its spelling, puts exactly that
name behind the components of the path (`components_push`), and taking several
puts them all there in order (`components_extend`).  A path taken below another
one that starts at the top starts at the top.
-/
import StaticPreview.Path
import StaticPreview.Proofs.Pieces

namespace StaticPreview.Path

/-- A name that stands for one entry and for nothing else. -/
structure IsPlain (name : Bytes) : Prop where
  ne_nil : name ≠ []
  ne_dot : name ≠ dotName
  ne_up : name ≠ upName
  no_slash : Bytes.slash ∉ name
  no_backslash : 0x5C ∉ name
  no_zero : 0 ∉ name

/-- A name that an entry of a directory can have, whatever a target makes of it. -/
structure IsName (name : Bytes) : Prop where
  ne_nil : name ≠ []
  ne_dot : name ≠ dotName
  ne_up : name ≠ upName
  no_slash : Bytes.slash ∉ name
  no_zero : 0 ∉ name

variable {base name : Bytes}

theorem IsName.isPlain (proper : IsName name) (noBackslash : 0x5C ∉ name) : IsPlain name :=
  ⟨proper.ne_nil, proper.ne_dot, proper.ne_up, proper.no_slash, noBackslash, proper.no_zero⟩

theorem extend_append_singleton (base name : Bytes) (names : List Bytes) :
    extend base (names ++ [name]) = push (extend base names) name := by
  simp [extend]

theorem isAbsolute_append (part : Bytes) (h : isAbsolute base = true) :
    isAbsolute (base ++ part) = true := by
  cases base with
  | nil => simp [isAbsolute] at h
  | cons b r => simpa [isAbsolute] using h

theorem isAbsolute_push (part : Bytes) (h : isAbsolute base = true) :
    isAbsolute (push base part) = true := by
  unfold push
  split
  · assumption
  · split
    · exact isAbsolute_append part h
    · exact isAbsolute_append (Bytes.slash :: part) h

theorem isAbsolute_extend (parts : List Bytes) (h : isAbsolute base = true) :
    isAbsolute (extend base parts) = true := by
  induction parts generalizing base with
  | nil => exact h
  | cons part parts ih => exact ih (isAbsolute_push part h)

namespace IsPlain

theorem not_isAbsolute (plain : IsPlain name) : isAbsolute name = false := by
  cases name with
  | nil => rfl
  | cons b r =>
      have hb : b ≠ Bytes.slash := by
        rintro rfl
        exact plain.no_slash List.mem_cons_self
      simpa [isAbsolute] using hb

theorem ofText? (plain : IsPlain name) : Component.ofText? name = some (.name name) := by
  simp [Component.ofText?, plain.ne_nil, plain.ne_dot, plain.ne_up]

theorem split (plain : IsPlain name) : Pieces.split Bytes.slash name = [name] :=
  Pieces.split_of_not_mem plain.no_slash

end IsPlain

theorem push_of_plain (plain : IsPlain name) :
    push base name =
      if base = [] ∨ base.getLast? = some Bytes.slash then base ++ name
      else base ++ Bytes.slash :: name := by
  simp [push, plain.not_isAbsolute]

theorem length_push_le (plain : IsPlain name) :
    base.length + name.length ≤ (push base name).length := by
  rw [push_of_plain plain]
  split
  · exact Nat.le_of_eq List.length_append.symm
  · rw [List.length_append, List.length_cons]
    omega

/-- A path is no shorter than the plain names that were taken below another. -/
theorem length_extend_le {names : List Bytes} (plain : ∀ n ∈ names, IsPlain n) :
    base.length + names.flatten.length ≤ (extend base names).length := by
  induction names generalizing base with
  | nil => exact Nat.le_refl _
  | cons n names ih =>
      have first : base.length + n.length ≤ (push base n).length :=
        length_push_le (plain n List.mem_cons_self)
      have rest : (push base n).length + names.flatten.length ≤
          (extend (push base n) names).length :=
        ih fun m hm => plain m (List.mem_cons_of_mem _ hm)
      have step : extend base (n :: names) = extend (push base n) names := rfl
      rw [step, List.flatten_cons, List.length_append]
      omega

/-! ## What stands behind a solidus -/

/-- A solidus parts the components of what stands behind it from those before. -/
theorem components_append_slash (front part : Bytes) :
    components (front ++ Bytes.slash :: part) =
      components (front ++ [Bytes.slash]) ++
        (Pieces.split Bytes.slash part).filterMap Component.ofText? := by
  have absolute : isAbsolute (front ++ Bytes.slash :: part) =
      isAbsolute (front ++ [Bytes.slash]) := by
    cases front <;> rfl
  have whole := Pieces.split_append_cons Bytes.slash front part
  have short := Pieces.split_append_cons Bytes.slash front []
  have head : (Pieces.split Bytes.slash (front ++ Bytes.slash :: part)).head? =
      (Pieces.split Bytes.slash (front ++ [Bytes.slash])).head? := by
    rw [Pieces.head?_split_append_cons, Pieces.head?_split_append_cons]
  have empty : (Pieces.split Bytes.slash []).filterMap Component.ofText? = [] := rfl
  simp only [components, absolute, head]
  rw [whole, short, List.filterMap_append, List.filterMap_append, empty, List.append_nil,
    List.append_assoc]

/-- A solidus at the end of a path adds nothing. -/
theorem components_append_singleton_slash (hbase : base ≠ []) :
    components (base ++ [Bytes.slash]) = components base := by
  have absolute : isAbsolute (base ++ [Bytes.slash]) = isAbsolute base := by
    cases base with
    | nil => exact absurd rfl hbase
    | cons b r => rfl
  have texts := Pieces.split_append_cons Bytes.slash base []
  have empty : (Pieces.split Bytes.slash []).filterMap Component.ofText? = [] := rfl
  simp only [components, absolute, Pieces.head?_split_append_cons]
  rw [texts, List.filterMap_append, empty, List.append_nil]

theorem IsPlain.components (plain : IsPlain name) : components name = [.name name] := by
  have notHere : ¬ some name = some dotName := fun e => plain.ne_dot (Option.some.inj e)
  simp [Path.components, plain.not_isAbsolute, plain.split, plain.ofText?, notHere]

/-- **A plain name goes behind the components of any path.** -/
theorem components_push (plain : IsPlain name) :
    components (push base name) = components base ++ [.name name] := by
  have texts : (Pieces.split Bytes.slash name).filterMap Component.ofText? = [.name name] := by
    simp [plain.split, plain.ofText?]
  rw [push_of_plain plain]
  by_cases hbase : base = []
  · subst hbase
    rw [if_pos (Or.inl rfl), List.nil_append, plain.components]
    rfl
  · by_cases hlast : base.getLast? = some Bytes.slash
    · -- the solidus at the end of the base is the one that parts the two
      obtain ⟨front, rfl⟩ := List.getLast?_eq_some_iff.1 hlast
      rw [if_pos (Or.inr hlast), List.append_assoc, List.singleton_append,
        components_append_slash, texts]
    · have neither : ¬ (base = [] ∨ base.getLast? = some Bytes.slash) := not_or.2 ⟨hbase, hlast⟩
      rw [if_neg neither, components_append_slash, texts,
        components_append_singleton_slash hbase]

/-- **Plain names go behind the components of any path, in their order.** -/
theorem components_extend {names : List Bytes} (plain : ∀ n ∈ names, IsPlain n) :
    components (extend base names) = components base ++ names.map .name := by
  induction names generalizing base with
  | nil => simp [extend]
  | cons n names ih =>
      have hn : IsPlain n := plain n List.mem_cons_self
      have hnames : ∀ m ∈ names, IsPlain m := fun m hm => plain m (List.mem_cons_of_mem _ hm)
      have step : extend base (n :: names) = extend (push base n) names := rfl
      rw [step, ih hnames, components_push hn, List.append_assoc]
      rfl

end StaticPreview.Path
