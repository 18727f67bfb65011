/-
# StaticPreview.Proofs.Request.Accepted -- what stands in a request that was read

A request that came in had its method and its target read from bytes (`Request.Accepted`),
and reading lets few bytes through.  A method is a token (`Method.all_name`).  A target is
written with exactly the bytes it was read from, and each of them may stand in a path or in
a query (`isTargetByte_of_target`); so it holds no control, no blank and no number sign, and
its bytes may stand in the value of a field.

Nothing is asked of the fields of the request, whose values are looked at where they are
read: one that is not visible counts as not sent, and of any other the text is the bytes
(`Field.all_text?`, `Field.text?_map`).
-/
import StaticPreview.Proofs.Header.Visible
import StaticPreview.Proofs.Outcome
import StaticPreview.Proofs.Request.Uri
import StaticPreview.Proofs.Target.Percent
import StaticPreview.Proofs.Text.Utf8.Exact
import StaticPreview.Request

namespace StaticPreview

open StaticPreview.Text

/-! ## Targets -/

namespace Uri

variable {s : Bytes} {t : List Char} {b : UInt8}

/-- Whether a byte may stand in a path or in a query. -/
def isTargetByte (b : UInt8) : Bool := isPathByte b || isQueryByte b

/-- What may stand in a target is neither a control nor a blank nor a number sign. -/
theorem isValueByte_of_isTargetByte :
    isTargetByte b = true → Header.isValueByte b = true ∧ 0x20 < b ∧ b ≠ 0x23 := by
  have all : ∀ b, isTargetByte b = true → Header.isValueByte b = true ∧ 0x20 < b ∧ b ≠ 0x23 :=
    Target.Percent.forall_byte (by decide +kernel)
  exact all b

/-- **A path with a query is written with the bytes it was read from**, up to its
fragment. -/
theorem encode_of_pathAndQuery (h : pathAndQuery s = .ok t) :
    t = ['/'] ∨ Utf8.encode t = s.takeWhile (· ≠ 0x23) ∧
      ∀ b ∈ s.takeWhile (· ≠ 0x23), isTargetByte b = true := by
  rw [pathAndQuery] at h
  generalize s.takeWhile (· ≠ 0x23) = kept at h ⊢
  split at h
  · cases h
  · rename_i allowed
    simp only [Bool.or_eq_true, Bool.not_eq_true', not_or, Bool.not_eq_false] at allowed
    obtain ⟨path, query⟩ := allowed
    split at h
    · left
      exact (Except.ok.inj h).symm
    · rename_i read
      cases h
      right
      refine ⟨Utf8.decode?_eq_some_iff.1 read, ?_⟩
      intro b member
      rw [← List.takeWhile_append_dropWhile (p := (· ≠ 0x3F)) (l := kept)] at member
      rcases List.mem_append.1 member with front | back
      · simp [isTargetByte, List.all_eq_true.1 path b front]
      · cases rest : kept.dropWhile (· ≠ 0x3F) with
        | nil =>
            rw [rest] at back
            cases back
        | cons mark behind =>
            rw [rest] at back query
            rcases List.mem_cons.1 back with rfl | inside
            · -- what the query begins behind is the question mark
              have stop := List.head?_dropWhile_not (· ≠ 0x3F) kept
              rw [rest] at stop
              simp at stop
              rw [stop]
              decide
            · simp [isTargetByte, List.all_eq_true.1 query b inside]
    · cases h

theorem isTargetByte_of_single {sign : UInt8} (written : Utf8.encode t = [sign])
    (allowed : isTargetByte sign = true) : ∀ b ∈ Utf8.encode t, isTargetByte b = true := by
  intro b member
  rw [written, List.mem_singleton] at member
  rw [member]
  exact allowed

theorem isTargetByte_of_top : ∀ b ∈ Utf8.encode ['/'], isTargetByte b = true :=
  isTargetByte_of_single rfl (by decide)

theorem isTargetByte_of_pathAndQuery (h : pathAndQuery s = .ok t) :
    ∀ b ∈ Utf8.encode t, isTargetByte b = true := by
  rcases encode_of_pathAndQuery h with rfl | ⟨written, allowed⟩
  · exact isTargetByte_of_top
  · rw [written]
    exact allowed

theorem isTargetByte_of_absolute (h : absolute s = .ok t) :
    ∀ b ∈ Utf8.encode t, isTargetByte b = true := by
  obtain ⟨scheme, -, h⟩ := exists_of_bind_eq_ok h
  obtain ⟨-, -, h⟩ := exists_of_bind_eq_ok h
  cases scheme with
  | some rest =>
      dsimp only at h
      rw [if_pos rfl] at h
      split at h
      · cases h
      · exact isTargetByte_of_pathAndQuery h
  | none =>
      dsimp only at h
      rw [if_neg Bool.false_ne_true] at h
      split at h
      · cases h
        exact isTargetByte_of_top
      · cases h

/-- **Everything that a target is written with may stand in a path or in a query.** -/
theorem isTargetByte_of_target (h : target s = .ok t) :
    ∀ b ∈ Utf8.encode t, isTargetByte b = true := by
  unfold target at h
  split at h
  · cases h
  split at h
  · cases h
  · cases h
    exact isTargetByte_of_single rfl (by decide)
  · split at h
    · cases h
      exact isTargetByte_of_top
    split at h
    · cases h
    · obtain ⟨-, -, h⟩ := exists_of_bind_eq_ok h
      cases h
      exact isTargetByte_of_top
  · split at h
    · exact isTargetByte_of_pathAndQuery h
    · exact isTargetByte_of_absolute h

/-- No control, no blank and no number sign stands in a target. -/
theorem of_mem_target (h : target s = .ok t) {c : Char} (member : c ∈ t) :
    0x20 < c.toNat ∧ c ≠ '#' := by
  by_cases ascii : c.toNat < 0x80
  · have written : c.toNat.toUInt8 ∈ Utf8.encode t := by
      rw [Utf8.encode, List.mem_flatMap]
      refine ⟨c, member, ?_⟩
      rw [Utf8.encodeChar_ascii ascii]
      exact List.mem_singleton_self _
    obtain ⟨-, low, sign⟩ := isValueByte_of_isTargetByte (isTargetByte_of_target h _ written)
    have value := Utf8.toNat_toUInt8 (n := c.toNat) (by omega)
    refine ⟨?_, ?_⟩
    · rwa [UInt8.lt_iff_toNat_lt, value] at low
    · rintro rfl
      exact sign rfl
  · refine ⟨by omega, ?_⟩
    rintro rfl
    exact ascii (by decide)

end Uri

/-! ## Methods -/

/-- Whether a character may stand in a token. -/
def Header.isTokenChar (c : Char) : Bool := c.toNat < 0x80 && isTokenByte c.toNat.toUInt8

/-- **The name of a method that was read is a token.** -/
theorem Method.all_name {s : Bytes} {m : Method} (h : ofBytes? s = some m) :
    m.name.toList.all Header.isTokenChar = true := by
  unfold ofBytes? at h
  split at h
  · cases h
  · rename_i token
    simp only [Bool.not_eq_true', not_or, Bool.not_eq_false] at token
    have text : (Header.asciiText s).toList.all Header.isTokenChar = true := by
      rw [Header.asciiText, String.toList_ofList, List.all_map, List.all_eq_true]
      intro b member
      have all : ∀ b, Header.isTokenByte b = true → Header.isTokenChar (Char.ofNat b.toNat) = true :=
        Target.Percent.forall_byte (by decide +kernel)
      exact all b (List.all_eq_true.1 token.2 b member)
    dsimp only at h
    repeat' split at h
    all_goals cases h
    · decide
    · decide
    · decide
    · exact text

/-! ## Values -/

/-- Whether a character may stand in a value that is read as a text. -/
def Header.isTextChar (c : Char) : Bool := c.toNat < 0x80 && isVisibleByte c.toNat.toUInt8

/-- What is read of a field is made of visible characters, blanks and tabs. -/
theorem Field.all_text? {f : Field} {text : String} (h : f.text? = some text) :
    text.toList.all Header.isTextChar = true := by
  rw [Field.text?] at h
  split at h
  · rename_i visible
    rw [← Option.some.inj h, Header.asciiText, String.toList_ofList, List.all_map, List.all_eq_true]
    intro b member
    have all : ∀ b, Header.isVisibleByte b = true → Header.isTextChar (Char.ofNat b.toNat) = true :=
      Target.Percent.forall_byte (by decide +kernel)
    exact all b (List.all_eq_true.1 visible b member)
  · cases h

/-- **A text of such characters is read as it is** from the value that has them for bytes. -/
theorem Field.text?_map (name : String) {s : List Char} (all : s.all Header.isTextChar = true) :
    text? { name, value := s.map fun c => c.toNat.toUInt8 } = some (String.ofList s) := by
  rw [List.all_eq_true] at all
  have visible : (s.map fun c => c.toNat.toUInt8).all Header.isVisibleByte = true := by
    rw [List.all_map, List.all_eq_true]
    intro c member
    exact (Bool.and_eq_true_iff.1 (all c member)).2
  have back : (s.map fun c => c.toNat.toUInt8).map (fun b => Char.ofNat b.toNat) = s := by
    rw [List.map_map]
    conv => rhs; rw [← List.map_id s]
    apply List.map_congr_left
    intro c member
    have ascii := of_decide_eq_true (Bool.and_eq_true_iff.1 (all c member)).1
    show Char.ofNat c.toNat.toUInt8.toNat = c
    rw [Utf8.toNat_toUInt8 (by omega), Char.ofNat_toNat]
  rw [text?, if_pos visible, Header.asciiText, back]

namespace Request

/-! ## Whole requests -/

/-- A request whose method and target were read from bytes. -/
structure Accepted (r : Request) : Prop where
  method : ∃ s, Method.ofBytes? s = some r.method
  target : ∃ s, Uri.target s = .ok r.target

variable {r : Request}

theorem Accepted.not_mem_name (accepted : r.Accepted) {c : Char}
    (other : Header.isTokenChar c = false) : c ∉ r.method.name.toList := by
  obtain ⟨s, read⟩ := accepted.method
  intro member
  rw [List.all_eq_true.1 (Method.all_name read) c member] at other
  cases other

theorem Accepted.of_mem_target (accepted : r.Accepted) {c : Char} (member : c ∈ r.target) :
    0x20 < c.toNat ∧ c ≠ '#' := by
  obtain ⟨s, read⟩ := accepted.target
  exact Uri.of_mem_target read member

theorem Accepted.not_mem_target (accepted : r.Accepted) : '\n' ∉ r.target := by
  intro member
  exact absurd (accepted.of_mem_target member).1 (by decide)

theorem all_headerText? {name text : String} (h : r.headerText? name = some text) :
    text.toList.all Header.isTextChar = true := by
  obtain ⟨field, -, shown⟩ := Option.bind_eq_some_iff.1 h
  exact Field.all_text? shown

/-- A target that was read may be the value of a field. -/
theorem Accepted.isValueByte (accepted : r.Accepted) :
    ∀ b ∈ Utf8.encode r.target, Header.isValueByte b = true := by
  obtain ⟨s, read⟩ := accepted.target
  intro b member
  exact (Uri.isValueByte_of_isTargetByte (Uri.isTargetByte_of_target read b member)).1

end Request

end StaticPreview
