/-
# StaticPreview.Proofs.Settings.Verbatim -- which texts of variables arrive as they are

The text of a variable is taken for a boolean or a number where it reads as one, before it
is known what is expected (`text_cases`).  Where a text is expected, what was read is
written out again: it arrives when that gives back what was there (`IsFaithful`), so `1.5`
does, but `007`, `1.50` and `TRUE` do not.  Where a list is expected, a boolean or a number
is none: a list of several texts always arrives, since a comma stands in no boolean and in
no number (`isPlain_of_comma_mem`), a list of one text only when that reads as neither.

This is all that can go wrong: a variable that is set to a text that its kind keeps
(`Kind.Keeps`) is as good as any other one, and what it sets is that text (`arrives_iff`).
-/
import StaticPreview.Proofs.Number.Binary64
import StaticPreview.Proofs.Settings.Said

namespace StaticPreview.Settings

open StaticPreview.Number StaticPreview.Text

/-! ## What a text reads as -/

/-- A text that reads as a double, and neither as a boolean nor as a whole number. -/
structure IsDouble (text : String) (x : Binary64) : Prop where
  ne_true : toLower text ≠ "true"
  ne_false : toLower text ≠ "false"
  no_integer : (Integer64.read text.toList).toOption = none
  double : Binary64.read? text.toList = some x

/-- A text reads as a boolean, as a whole number, as a double or as none of them. -/
theorem text_cases (text : String) :
    (∃ b : Bool, toLower text = if b then "true" else "false") ∨
      (∃ n, Integer64.read text.toList = .ok n) ∨ (∃ x, IsDouble text x) ∨ IsPlain text := by
  by_cases isTrue : toLower text = "true"
  · exact Or.inl ⟨true, isTrue⟩
  by_cases isFalse : toLower text = "false"
  · exact Or.inl ⟨false, isFalse⟩
  cases integer : (Integer64.read text.toList).toOption with
  | some n => exact Or.inr (Or.inl ⟨n, eq_ok_of_toOption integer⟩)
  | none =>
      cases double : Binary64.read? text.toList with
      | some x => exact Or.inr (Or.inr (Or.inl ⟨x, isTrue, isFalse, integer, double⟩))
      | none => exact Or.inr (Or.inr (Or.inr ⟨isTrue, isFalse, integer, double⟩))

theorem read_of_word {text : String} {b : Bool}
    (word : toLower text = if b then "true" else "false") (key : String) :
    Environment.read key text = .ofScalar (.boolean b) := by
  cases b <;> simp [Environment.read, word]

theorem read_of_isDouble {text : String} {x : Binary64} (double : IsDouble text x)
    (key : String) : Environment.read key text = .ofScalar (.floating x) := by
  obtain ⟨refusal, refused⟩ := exists_of_toOption_eq_none double.no_integer
  rw [Environment.read, if_neg double.ne_true, if_neg double.ne_false, refused, double.double]

/-! ## Texts with a comma -/

theorem mem_lowerFrom {c : Char} (low : c.toNat < 0x41) {s : List Char} (member : c ∈ s)
    (before : List Char) : c ∈ Lowercase.lowerFrom before s := by
  induction s generalizing before with
  | nil => cases member
  | cons d s ih =>
      rw [Lowercase.lowerFrom]
      rcases List.mem_cons.1 member with rfl | later
      · have other : c ≠ 'Σ' := by
          rintro rfl
          exact absurd low (by decide)
        rw [if_neg other, lowerChar_of_lt low]
        exact List.mem_cons_self
      · split
        · exact List.mem_cons_of_mem _ (ih later _)
        · exact List.mem_append_right _ (ih later _)

/-- A comma stands in no boolean and in no number. -/
theorem isPlain_of_comma_mem {text : String} (comma : ',' ∈ text.toList) : IsPlain text := by
  have lowered : ',' ∈ (toLower text).toList := by
    rw [toList_toLower]
    exact mem_lowerFrom (by decide) comma []
  constructor
  · intro isTrue
    rw [isTrue] at lowered
    exact absurd lowered (by decide)
  · intro isFalse
    rw [isFalse] at lowered
    exact absurd lowered (by decide)
  · cases integer : Integer64.read text.toList with
    | error refusal => rfl
    | ok n =>
        have kind := Integer64.isDigit_of_mem_of_read integer ',' comma
        exact absurd kind (by decide)
  · cases double : Binary64.read? text.toList with
    | none => rfl
    | some x => exact absurd comma (Binary64.comma_not_mem_of_read? double)

theorem comma_mem_join {s t : List Char} (rest : List (List Char)) :
    ',' ∈ Pieces.join ',' (s :: t :: rest) := by
  rw [Pieces.join]
  · simp
  · simp

/-! ## Kinds made of texts -/

/-- Whether a text is written again as it was read. -/
inductive IsFaithful (text : String) : Prop
  | plain (plain : IsPlain text)
  | boolean (word : text = "true" ∨ text = "false")
  | integer {n : Int} (read : Integer64.read text.toList = .ok n)
      (written : text.toList = Decimal.signed n)
  | floating {x : Binary64} (read : IsDouble text x) (written : text.toList = x.text)

/-- How a text, or a list of texts, is written in a variable: as it is, or with commas
between its texts, none of which may hold one. -/
def Kind.Writes : (kind : Kind) → String → kind.Datum → Prop
  | .text, written, s => written = s
  | .texts, written, ss =>
      written.toList = Pieces.join ',' (ss.map String.toList) ∧ ss ≠ [] ∧
        ∀ s ∈ ss, ',' ∉ s.toList
  | _, _, _ => False

/-- Whether a text, or a list of texts, arrives as it was written. -/
def Kind.Keeps : (kind : Kind) → kind.Datum → Prop
  | .text, s => IsFaithful s
  | .texts, ss => ∀ s, ss = [s] → IsPlain s
  | _, _ => False

theorem toText_read_iff {key text : String} (single : key ∉ Environment.listKeys) :
    (Environment.read key text).toText = .ok text ↔ IsFaithful text := by
  constructor
  · intro same
    rcases text_cases text with ⟨b, word⟩ | ⟨n, integer⟩ | ⟨x, double⟩ | plain
    · rw [read_of_word word] at same
      have words : (if b then "true" else "false") = text := Except.ok.inj same
      apply IsFaithful.boolean
      cases b
      · exact Or.inr words.symm
      · exact Or.inl words.symm
    · rw [read_of_integer integer] at same
      have digits : String.ofList (Decimal.signed n) = text := Except.ok.inj same
      exact .integer integer (by rw [← digits, String.toList_ofList])
    · rw [read_of_isDouble double] at same
      have digits : String.ofList x.text = text := Except.ok.inj same
      exact .floating double (by rw [← digits, String.toList_ofList])
    · exact .plain plain
  · rintro (plain | word | ⟨integer, written⟩ | ⟨double, written⟩)
    · rw [read_of_isPlain plain, if_neg single]
      rfl
    · rcases word with rfl | rfl
      · rw [read_of_word (b := true) (by decide +kernel)]
        rfl
      · rw [read_of_word (b := false) (by decide +kernel)]
        rfl
    · rw [read_of_integer integer]
      exact congrArg Except.ok (by rw [← written, String.ofList_toList])
    · rw [read_of_isDouble double]
      exact congrArg Except.ok (by rw [← written, String.ofList_toList])

theorem isPlain_of_toTexts_read {key text : String} {ss : List String}
    (taken : (Environment.read key text).toTexts = .ok ss) : IsPlain text := by
  rcases text_cases text with ⟨b, word⟩ | ⟨n, integer⟩ | ⟨x, double⟩ | plain
  · rw [read_of_word word] at taken
    cases taken
  · rw [read_of_integer integer] at taken
    cases taken
  · rw [read_of_isDouble double] at taken
    cases taken
  · exact plain

theorem toTexts_read_iff {key text : String} (list : key ∈ Environment.listKeys)
    {ss : List String} (writes : Kind.texts.Writes text ss) :
    (Environment.read key text).toTexts = .ok ss ↔ Kind.texts.Keeps ss := by
  constructor
  · rintro taken s rfl
    have same : text.toList = s.toList := writes.1
    rw [← String.toList_inj.1 same]
    exact isPlain_of_toTexts_read taken
  · intro keeps
    obtain ⟨joined, filled, free⟩ := writes
    have plain : IsPlain text := by
      match ss, filled with
      | [s], _ =>
          have same : text.toList = s.toList := joined
          rw [String.toList_inj.1 same]
          exact keeps s rfl
      | s :: t :: rest, _ =>
          apply isPlain_of_comma_mem
          rw [joined]
          exact comma_mem_join _
    exact toTexts_of_holds (holds_read_texts list ⟨joined, plain, filled, free⟩)

/-- **What is written in a variable is read as it was exactly when its kind keeps it.** -/
theorem take_read_iff {k : Setting} {text : String} {y : k.kind.Datum}
    (writes : k.kind.Writes text y) :
    k.kind.take (Environment.read k.key text) = .ok y ↔ k.kind.Keeps y := by
  have list := mem_listKeys_iff k
  generalize k.key = key at list ⊢
  generalize k.kind = kind at list y writes
  cases kind with
  | text =>
      obtain rfl : text = y := writes
      exact toText_read_iff fun member => nomatch list.1 member
  | texts => exact toTexts_read_iff (list.2 rfl) writes
  | port | boolean | seconds => exact writes.elim

/-! ## Variables -/

/-- Another text in a variable makes a difference to its setting only. -/
theorem apartAt_merge_of_variables {k : Setting} {name : String}
    (named : toLower name = k.variable_) (text other : String)
    (before : List (String × String)) {after : List (String × String)}
    (later : ∀ x ∈ Environment.collect after, concerns x k = false) (fields : Fields Value)
    {o : Overrides} (unasked : o.layer k = none) :
    Value.ApartAt k ((Environment.read k.key text).withOrigin Environment.origin)
      ((Environment.read k.key other).withOrigin Environment.origin)
      (merge [defaults, fields, Environment.collect (before ++ (name, text) :: after), o.fields])
      (merge [defaults, fields, Environment.collect (before ++ (name, other) :: after),
        o.fields]) := by
  have apart (root : Value) := apartAt_set_key (k := k)
    (isLeaf_withOrigin (isLeaf_read k.key text) Environment.origin)
    (isLeaf_withOrigin (isLeaf_read k.key other) Environment.origin) root
  rw [merge_overrides, merge_overrides, collect_append_cons named, collect_append_cons named]
  simp only [merge, List.foldl_cons, List.foldl_nil, setAll_append, setAll_cons]
  exact apartAt_setAll (concerns_overrides unasked) (apartAt_setAll later (apart _))

/-- **What is written in a variable arrives exactly when its kind keeps it**, as far as the
sources can be used with anything in its place. -/
theorem arrives_iff (fs : FileSystem) (file : String) {before after : List (String × String)}
    {name text : String} {o : Overrides} {k : Setting} {y : k.kind.Datum}
    (named : toLower name = k.variable_)
    (later : ∀ x ∈ Environment.collect after, concerns x k = false)
    (unasked : o.layer k = none) (writes : k.kind.Writes text y) :
    (∃ s, load fs file (before ++ (name, text) :: after) o = .ok s ∧ s.layer k = some y) ↔
      (∃ other s, load fs file (before ++ (name, other) :: after) o = .ok s) ∧
        k.kind.Keeps y := by
  have taken (said : Option k.kind.Datum) :
      k.take ((Environment.read k.key text).withOrigin Environment.origin) = .ok said ↔
        k.take (Environment.read k.key text) = .ok said :=
    take_withOrigin_iff _ _ k
  have found (fields : Fields Value) := leaf?_of_unasked
    (leaf?_of_variables (sets_collect named text before later) fields) unasked
  constructor
  · rintro ⟨s, loaded, said⟩
    refine ⟨⟨text, s, loaded⟩, ?_⟩
    obtain ⟨fields, -, decoded⟩ := load_eq_ok_iff.1 loaded
    have value := take_of_decode decoded (found fields)
    rw [said, taken, take_eq_ok_some_iff] at value
    exact (take_read_iff writes).1 value
  · rintro ⟨⟨other, s, loaded⟩, keeps⟩
    obtain ⟨fields, fromFile, decoded⟩ := load_eq_ok_iff.1 loaded
    have value := (taken (some y)).2 (take_eq_ok_some_iff.2 ((take_read_iff writes).2 keeps))
    have trees := apartAt_merge_of_variables named other text before later fields unasked
    have changed := decode_of_apartAt trees decoded value
    exact ⟨_, load_eq_ok_iff.2 ⟨fields, fromFile, changed⟩,
      layer_of_decode changed (found fields) value⟩

/-- The text `1.5` for the directory that is served, next to a directory that is asked for
in a variable of another name, and two settings that other sources set. -/
theorem arrives_one_and_a_half :
    ∃ s, load {} "preview.toml"
        ([("SERVER__ROOT", "dist")] ++ ("Preview__Server__Root", "1.5") ::
          [("PREVIEW__SERVER__PORT", "80")]) { host := some "::1" } = .ok s ∧
      s.layer .root = some "1.5" := by
  have double : IsDouble "1.5" (.finite false 6755399441055744 (-52)) :=
    ⟨by decide +kernel, by decide +kernel, by decide +kernel, by decide +kernel⟩
  have faithful : IsFaithful "1.5" := .floating double (by decide +kernel)
  have other : load {} "preview.toml"
      ([("SERVER__ROOT", "dist")] ++ ("Preview__Server__Root", "dist") ::
        [("PREVIEW__SERVER__PORT", "80")]) { host := some "::1" } =
      .ok { server := { host := "::1", port := 80, root := "dist" } } := by
    decide +kernel
  exact (arrives_iff {} "preview.toml" (k := .root) (y := "1.5") (by decide +kernel)
    (by decide +kernel) rfl rfl).2 ⟨⟨"dist", _, other⟩, faithful⟩

/-- A directory and a list of one name that read as numbers: the first one arrives as
another text, and the second one is refused. -/
theorem not_arrives_seven :
    load {} "preview.toml" [("PREVIEW__SERVER__ROOT", "007")] {} =
        .ok { server := { root := "7" } } ∧
      Kind.text.Writes "007" "007" ∧
      (load {} "preview.toml" [("PREVIEW__PREVIEW__INDEX_FILES", "404")] {}).toOption = none ∧
      Kind.texts.Writes "404" ["404"] := by
  refine ⟨by decide +kernel, rfl, by decide +kernel, ?_⟩
  exact ⟨by decide, by simp, by simp⟩

end StaticPreview.Settings
