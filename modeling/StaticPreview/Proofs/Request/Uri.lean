/-
# StaticPreview.Proofs.Request.Uri -- which targets a request line can carry

The bytes of a text that starts with a solidus are cut where its characters are, since
the signs that are cut at are ASCII (`takeWhile_encode_ne`), so it is read as the
characters in front of its fragment (`pathAndQuery_encode`).  Behind a path, a query comes
through as it is exactly when its bytes may stand in a query and the whole is not too
long: `target_unsplit_iff`.
-/
import StaticPreview.Proofs.Text.Utf8
import StaticPreview.Request.Uri
import StaticPreview.Target

namespace StaticPreview

open StaticPreview.Text

namespace Uri

variable {s path query : List Char}

/-- Whether the bytes of a text may all stand in a query. -/
def IsQuery (query : List Char) : Prop := (Utf8.encode query).all isQueryByte = true

/-- Whether the bytes of a text may all stand in a path. -/
def IsPath (path : List Char) : Prop := (Utf8.encode path).all isPathByte = true

instance (query : List Char) : Decidable (IsQuery query) := inferInstanceAs (Decidable (_ = true))

instance (path : List Char) : Decidable (IsPath path) := inferInstanceAs (Decidable (_ = true))

/-- An ASCII character whose byte may not stand in a text does not. -/
theorem not_mem_of_all {p : UInt8 → Bool} {b : UInt8} (ascii : b < 0x80) (refused : p b = false)
    (all : (Utf8.encode s).all p = true) : Char.ofNat b.toNat ∉ s := by
  intro member
  have held := List.all_eq_true.1 all b ((Utf8.mem_encode_ascii ascii s).2 member)
  rw [refused] at held
  exact absurd held Bool.false_ne_true

/-- **A text is read as what stands in front of its fragment**, if the bytes of its path
and of its query may stand there. -/
theorem pathAndQuery_encode (s : List Char) :
    let kept := s.takeWhile (· ≠ '#')
    pathAndQuery (Utf8.encode s) =
      if (Utf8.encode (kept.takeWhile (· ≠ '?'))).all isPathByte = true ∧
          ((Utf8.encode (kept.dropWhile (· ≠ '?'))).drop 1).all isQueryByte = true then
        .ok (if kept = [] then ['/'] else kept)
      else .error .character := by
  intro kept
  have cut : (Utf8.encode s).takeWhile (· ≠ 0x23) = Utf8.encode kept :=
    Utf8.takeWhile_encode_ne (by decide) s
  have front : (Utf8.encode kept).takeWhile (· ≠ 0x3F) = Utf8.encode (kept.takeWhile (· ≠ '?')) :=
    Utf8.takeWhile_encode_ne (by decide) kept
  have back : (Utf8.encode kept).dropWhile (· ≠ 0x3F) = Utf8.encode (kept.dropWhile (· ≠ '?')) :=
    Utf8.dropWhile_encode_ne (by decide) kept
  simp only [pathAndQuery, cut, front, back, Utf8.decode?_encode]
  cases (Utf8.encode (kept.takeWhile (· ≠ '?'))).all isPathByte with
  | false => rfl
  | true =>
      cases ((Utf8.encode (kept.dropWhile (· ≠ '?'))).drop 1).all isQueryByte with
      | false => rfl
      | true => cases kept <;> rfl

theorem not_mem_path (clean : IsPath path) : '#' ∉ path ∧ '?' ∉ path :=
  ⟨not_mem_of_all (b := 0x23) (by decide) (by decide) clean,
    not_mem_of_all (b := 0x3F) (by decide) (by decide) clean⟩

/-- A text of a solidus and more is read as a path and a query. -/
theorem target_encode {c : Char} {rest : List Char} :
    target (Utf8.encode ('/' :: c :: rest)) =
      if maxLength < (Utf8.encode ('/' :: c :: rest)).length then .error .tooLong
      else pathAndQuery (Utf8.encode ('/' :: c :: rest)) := by
  have solidus : Utf8.encode ('/' :: c :: rest) = 0x2F :: Utf8.encode (c :: rest) := rfl
  obtain ⟨b, bytes, more⟩ : ∃ b bytes, Utf8.encode (c :: rest) = b :: bytes := by
    obtain ⟨b, bytes, first⟩ := List.exists_cons_of_ne_nil (Utf8.encodeChar_ne_nil c)
    exact ⟨b, bytes ++ Utf8.encode rest, by rw [Utf8.encode_cons, first, List.cons_append]⟩
  rw [solidus, more]
  rfl

theorem ne_of_not_mem {c : Char} (h : c ∉ s) : ∀ d ∈ s, decide (d ≠ c) = true := by
  intro d member
  rw [decide_eq_true_iff]
  rintro rfl
  exact h member

theorem takeWhile_ne_of_not_mem {c : Char} (h : c ∉ s) : s.takeWhile (· ≠ c) = s := by
  have whole : (s ++ []).takeWhile (· ≠ c) = s ++ [].takeWhile (· ≠ c) :=
    List.takeWhile_append_of_pos (ne_of_not_mem h)
  simpa using whole

/-- A path with something behind a question mark is read up to the fragment of that. -/
theorem pathAndQuery_append (clean : IsPath path) (query : List Char) :
    pathAndQuery (Utf8.encode (path ++ '?' :: query)) =
      if (Utf8.encode (query.takeWhile (· ≠ '#'))).all isQueryByte = true then
        .ok (path ++ '?' :: query.takeWhile (· ≠ '#'))
      else .error .character := by
  obtain ⟨sign, mark⟩ := not_mem_path clean
  have kept : (path ++ '?' :: query).takeWhile (· ≠ '#') =
      path ++ '?' :: query.takeWhile (· ≠ '#') := by
    rw [List.takeWhile_append_of_pos (ne_of_not_mem sign), List.takeWhile_cons_of_pos (by decide)]
  have front (rest : List Char) : (path ++ '?' :: rest).takeWhile (· ≠ '?') = path := by
    rw [List.takeWhile_append_of_pos (ne_of_not_mem mark), List.takeWhile_cons_of_neg (by decide),
      List.append_nil]
  have back (rest : List Char) : (path ++ '?' :: rest).dropWhile (· ≠ '?') = '?' :: rest := by
    rw [List.dropWhile_append_of_pos (ne_of_not_mem mark), List.dropWhile_cons_of_neg (by decide)]
  have behind (rest : List Char) : (Utf8.encode ('?' :: rest)).drop 1 = Utf8.encode rest := rfl
  have filled (rest : List Char) : ¬ path ++ '?' :: rest = [] := by simp
  have good : (Utf8.encode path).all isPathByte = true := clean
  rw [pathAndQuery_encode, kept, front, back, behind, good, if_neg (filled _)]
  simp

/-- **Behind a path, a query comes through exactly when it is one and is not too long.** -/
theorem target_unsplit_iff {c : Char} {rest : List Char} (clean : IsPath ('/' :: c :: rest))
    (query : List Char) :
    let whole := Target.unsplit ('/' :: c :: rest) (some query)
    target (Utf8.encode whole) = .ok whole ↔
      IsQuery query ∧ (Utf8.encode whole).length ≤ maxLength := by
  intro whole
  have text : whole = '/' :: c :: (rest ++ '?' :: query) := rfl
  have parts : '/' :: c :: (rest ++ '?' :: query) = '/' :: c :: rest ++ '?' :: query := rfl
  rw [text, target_encode, parts, pathAndQuery_append clean]
  constructor
  · intro read
    split at read
    · cases read
    · rename_i short
      split at read
      · rename_i good
        have same : query.takeWhile (· ≠ '#') = query :=
          (List.cons.inj (List.append_cancel_left (Except.ok.inj read))).2
        rw [same] at good
        exact ⟨good, Nat.le_of_not_lt short⟩
      · cases read
  · rintro ⟨good, short⟩
    have sign : '#' ∉ query := not_mem_of_all (b := 0x23) (by decide) (by decide) good
    have same : query.takeWhile (· ≠ '#') = query := takeWhile_ne_of_not_mem sign
    have held : (Utf8.encode query).all isQueryByte = true := good
    rw [same, if_neg (Nat.not_lt.2 short), if_pos held]

theorem target_of_isPath {c : Char} {rest : List Char} (clean : IsPath ('/' :: c :: rest))
    (short : (Utf8.encode ('/' :: c :: rest)).length ≤ maxLength) :
    target (Utf8.encode ('/' :: c :: rest)) = .ok ('/' :: c :: rest) := by
  obtain ⟨sign, mark⟩ := not_mem_path clean
  have good : (Utf8.encode ('/' :: c :: rest)).all isPathByte = true := clean
  have behind : ('/' :: c :: rest).dropWhile (· ≠ '?') = [] := by
    have none : ('/' :: c :: rest ++ []).dropWhile (· ≠ '?') = [].dropWhile (· ≠ '?') :=
      List.dropWhile_append_of_pos (ne_of_not_mem mark)
    simpa using none
  rw [target_encode, if_neg (Nat.not_lt.2 short), pathAndQuery_encode,
    takeWhile_ne_of_not_mem sign, takeWhile_ne_of_not_mem mark, behind, if_pos ⟨good, rfl⟩,
    if_neg (List.cons_ne_nil _ _)]

end Uri

end StaticPreview
