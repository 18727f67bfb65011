/-
# StaticPreview.Proofs.Target.Link -- a target for every file

The names on the way to a file, each written with its escapes behind a solidus, make a
target (`link`).  Whatever the names hold, what is written of them neither begins a query
nor a fragment (`split_unsplit_link`), reads back as the names (`decode_link`) and comes
apart at the solidi that stand between them (`split_flatMap_slash`).  So the target
resolves to exactly these names below the root, with any query behind it or none
(`names_link`), and asks for no directory (`resolve_link`).  All that is written may stand
in a path (`isPath_link`), and it is not much longer than the names (`length_link_le`).
-/
import StaticPreview.Proofs.Request.Uri
import StaticPreview.Proofs.Target.Slash

namespace StaticPreview.Target

open StaticPreview.Text

variable {names : List (List Char)} {query : Option (List Char)}

/-- The target that is written for the names on the way to a file. -/
def link (names : List (List Char)) : List Char :=
  names.flatMap fun name => '/' :: Percent.encodePath name

theorem ne_nil_of_plain (plain : ∀ name ∈ names, Path.IsPlain (Utf8.encode name)) :
    ∀ name ∈ names, name ≠ [] := by
  rintro name member rfl
  exact (plain [] member).ne_nil rfl

/-! ## The names come back -/

theorem link_eq_encodePath (names : List (List Char)) :
    link names = Percent.encodePath (names.flatMap ('/' :: ·)) := by
  induction names with
  | nil => rfl
  | cons name names ih =>
      have solidus : Percent.encodePath ('/' :: name) = '/' :: Percent.encodePath name := rfl
      rw [link, List.flatMap_cons, List.flatMap_cons, Percent.encodePath_append, solidus]
      exact congrArg _ ih

theorem decode_link (names : List (List Char)) :
    Percent.decode (link names) = names.flatMap ('/' :: ·) := by
  rw [link_eq_encodePath, Percent.decode_encodePath]

/-- Names behind solidi come apart into the names. -/
theorem split_flatMap_slash (whole : ∀ name ∈ names, '/' ∉ name) :
    Pieces.split '/' (names.flatMap ('/' :: ·)) = [] :: names := by
  induction names with
  | nil => rfl
  | cons name names ih =>
      have first : '/' ∉ name := whole name List.mem_cons_self
      have rest := ih fun n hn => whole n (List.mem_cons_of_mem _ hn)
      have behind : Pieces.split '/' (name ++ names.flatMap ('/' :: ·)) = name :: names := by
        cases names with
        | nil =>
            rw [List.flatMap_nil, List.append_nil]
            exact Pieces.split_of_not_mem first
        | cons next names =>
            rw [List.flatMap_cons, List.cons_append] at rest ⊢
            rw [Pieces.split_append_cons, Pieces.split_of_not_mem first]
            have tail := Pieces.split_append_cons '/' [] (next ++ names.flatMap ('/' :: ·))
            rw [List.nil_append, rest] at tail
            exact congrArg (name :: ·) (List.cons.inj tail).2.symm
      rw [List.flatMap_cons, List.cons_append]
      exact (Pieces.split_append_cons '/' [] _).trans (congrArg ([] :: ·) behind)

theorem foldl_place {placed : List (List Char)} (entries : ∀ name ∈ names, isEntry name = true) :
    names.foldl place placed = names.reverse ++ placed := by
  induction names generalizing placed with
  | nil => rfl
  | cons name names ih =>
      have entry := entries name List.mem_cons_self
      have down : ¬ name = ['.', '.'] := ((isEntry_iff name).1 entry).2.2.1
      have step : place placed name = name :: placed := by
        rw [place, if_neg down, if_pos entry]
      rw [List.foldl_cons, step, ih fun n hn => entries n (List.mem_cons_of_mem _ hn),
        List.reverse_cons, List.append_assoc]
      rfl

theorem settle_nil_cons (entries : ∀ name ∈ names, isEntry name = true) :
    settle ([] :: names) = names := by
  have nothing : place [] [] = [] := by decide
  rw [settle, List.foldl_cons, nothing, foldl_place entries, List.append_nil, List.reverse_reverse]

/-! ## The path of the target -/

/-- What is written begins neither a query nor a fragment. -/
theorem not_mem_link {c : Char} (other : Percent.isWritten c = false) : c ∉ link names := by
  intro member
  rw [link_eq_encodePath] at member
  have written := Percent.isWritten_of_mem member
  rw [other] at written
  exact absurd written Bool.false_ne_true

/-- **A query behind the names is not part of the path.** -/
theorem split_unsplit_link (sent : ∀ q ∈ query, '#' ∉ q) :
    split (unsplit (link names) query) = (link names, query) :=
  split_unsplit (not_mem_link (by decide)) (not_mem_link (by decide)) sent

/-- **The target of some names resolves to these names.** -/
theorem names_link (plain : ∀ name ∈ names, Path.IsPlain (Utf8.encode name))
    (sent : ∀ q ∈ query, '#' ∉ q) :
    Target.names (unsplit (link names) query) = names.map Utf8.encode := by
  have whole : ∀ name ∈ names, '/' ∉ name := fun n hn => (isEntry_of_isPlain (plain n hn)).2
  have entries : ∀ name ∈ names, isEntry name = true :=
    fun n hn => (isEntry_of_isPlain (plain n hn)).1
  rw [Target.names, split_unsplit_link sent, decode_link, split_flatMap_slash whole,
    settle_nil_cons entries]

/-! ## No directory is asked for -/

/-- A text made of filled pieces behind solidi does not end in one. -/
theorem getLast?_flatMap_slash {write : List Char → List Char} (nonempty : names ≠ [])
    (filled : ∀ name ∈ names, write name ≠ []) (whole : ∀ name ∈ names, '/' ∉ write name) :
    (names.flatMap fun name => '/' :: write name).getLast? ≠ some '/' := by
  have member : names.getLast nonempty ∈ names := List.getLast_mem nonempty
  obtain ⟨front, shape⟩ : ∃ front, (names.flatMap fun name => '/' :: write name) =
      front ++ write (names.getLast nonempty) := by
    refine ⟨(names.dropLast.flatMap fun name => '/' :: write name) ++ ['/'], ?_⟩
    conv => lhs; rw [← List.dropLast_concat_getLast nonempty]
    rw [List.flatMap_append, List.flatMap_singleton, List.append_assoc]
    rfl
  rw [shape, List.getLast?_append]
  cases last : (write (names.getLast nonempty)).getLast? with
  | none => exact absurd (List.getLast?_eq_none_iff.1 last) (filled _ member)
  | some c =>
      rw [Option.some_or]
      rintro ⟨⟩
      exact whole _ member (List.mem_of_getLast? last)

/-- **The target of some names ends in no solidus, neither as it is written nor read.** -/
theorem resolve_link (root : Bytes) (nonempty : names ≠ [])
    (plain : ∀ name ∈ names, Path.IsPlain (Utf8.encode name)) (sent : ∀ q ∈ query, '#' ∉ q) :
    (resolve root (unsplit (link names) query)).fsPath = Path.extend root (names.map Utf8.encode) ∧
      (resolve root (unsplit (link names) query)).trailingSlash = false ∧
      (resolve root (unsplit (link names) query)).urlPath.getLast? ≠ some '/' := by
  have filled := ne_nil_of_plain plain
  have whole : ∀ name ∈ names, '/' ∉ name := fun n hn => (isEntry_of_isPlain (plain n hn)).2
  have path : (split (unsplit (link names) query)).1 = link names := by
    rw [split_unsplit_link sent]
  refine ⟨?_, ?_, ?_⟩
  · rw [resolve_fsPath, names_link plain sent]
  · have written : (link names).getLast? ≠ some '/' :=
      getLast?_flatMap_slash nonempty (fun n hn => Percent.encodePath_ne_nil (filled n hn))
        fun n hn member => whole n hn (Percent.slash_mem_encodePath member)
    simp only [resolve, path, decide_eq_false_iff_not]
    exact written
  · have read : (names.flatMap ('/' :: ·)).getLast? ≠ some '/' :=
      getLast?_flatMap_slash nonempty filled whole
    simp only [resolve, path, decode_link]
    exact read

/-! ## The target can be sent -/

theorem toNat_lt_of_mem_link {c : Char} (h : c ∈ link names) : c.toNat < 0x80 := by
  rw [link_eq_encodePath] at h
  have written := Percent.isWritten_of_mem h
  simp only [Percent.isWritten, Bool.and_eq_true, decide_eq_true_eq] at written
  exact written.1

theorem isPath_link (names : List (List Char)) : Uri.IsPath (link names) := by
  have plain : ∀ b : UInt8, Percent.isPlain b = true → Uri.isPathByte b = true :=
    Percent.forall_byte (by decide +kernel)
  rw [Uri.IsPath, Utf8.encode_ascii fun c hc => toNat_lt_of_mem_link hc, List.all_map,
    List.all_eq_true]
  intro c member
  rw [link_eq_encodePath] at member
  have written := Percent.isWritten_of_mem member
  simp only [Percent.isWritten, Bool.and_eq_true, Bool.or_eq_true, decide_eq_true_eq] at written
  rcases written.2 with rfl | stays
  · decide
  · exact plain _ stays

/-- At most four bytes of a target stand for a byte of the names. -/
theorem length_link_le (filled : ∀ name ∈ names, name ≠ []) :
    (Utf8.encode (link names)).length ≤ 4 * (names.map Utf8.encode).flatten.length := by
  rw [Utf8.encode_ascii fun c hc => toNat_lt_of_mem_link hc, List.length_map]
  induction names with
  | nil => exact Nat.le_refl 0
  | cons name names ih =>
      have written := Percent.length_encodePath_le name
      -- the first byte of a name makes up for the solidus in front of it
      have some_ : 0 < (Utf8.encode name).length :=
        List.length_pos_iff.2 (encode_ne_nil (filled name List.mem_cons_self))
      have rest := ih fun n hn => filled n (List.mem_cons_of_mem _ hn)
      rw [link] at rest ⊢
      rw [List.flatMap_cons, List.length_append, List.length_cons, List.map_cons,
        List.flatten_cons, List.length_append]
      omega

theorem exists_link_eq (nonempty : names ≠ []) (filled : ∀ name ∈ names, name ≠ []) :
    ∃ c rest, link names = '/' :: c :: rest := by
  obtain ⟨name, names, rfl⟩ := List.exists_cons_of_ne_nil nonempty
  obtain ⟨c, written, first⟩ :=
    List.exists_cons_of_ne_nil (Percent.encodePath_ne_nil (filled name List.mem_cons_self))
  exact ⟨c, written ++ link names, by rw [link, List.flatMap_cons, first]; rfl⟩

end StaticPreview.Target
