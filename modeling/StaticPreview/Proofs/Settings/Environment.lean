/-
# StaticPreview.Proofs.Settings.Environment -- what variables set

A variable sets a setting when its name is, in some letter case, that of the setting
(`Setting.variable_`).  How a value is spelt depends on its kind (`Kind.Spells`): a number
is a text that reads as it and a boolean one of two words, and a text that reads as
neither stands for itself or, where a list is expected, for its pieces between commas.
What is spelt is what is read (`holds_read`), so variables that spell the values of a
layer tell that layer (`tells_collect`).
-/
import StaticPreview.Proofs.Number.Integer64
import StaticPreview.Proofs.Pieces
import StaticPreview.Proofs.Settings.Merge

namespace StaticPreview.Settings

open StaticPreview.Number StaticPreview.Text

/-! ## Lower case -/

/-- What stands before the letters is no letter. -/
theorem lowerChar_of_lt {c : Char} (h : c.toNat < 0x41) : Lowercase.lowerChar c = [c] := by
  have plain : ¬ (0x41 ≤ c.toNat ∧ c.toNat ≤ 0x5A) := by omega
  rw [Lowercase.lowerChar]
  simp only [plain, if_false]
  rw [if_pos (by omega)]

theorem toList_toLower (s : String) : (toLower s).toList = Lowercase.lowerFrom [] s.toList := by
  rw [toLower, String.toList_ofList]

theorem head?_toLower {s : String} {c : Char} {r : List Char} (shape : s.toList = c :: r)
    (h : c.toNat < 0x41) : (toLower s).toList.head? = some c := by
  have other : c ≠ 'Σ' := by
    rintro rfl
    exact absurd h (by decide)
  rw [toList_toLower, shape, Lowercase.lowerFrom, if_neg other, lowerChar_of_lt h]
  rfl

/-- A number is no word. -/
theorem toLower_ne_of_read {text word : String} {n : Int} {c : Char}
    (read : Integer64.read text.toList = .ok n) (first : word.toList.head? = some c)
    (letter : 0x41 ≤ c.toNat) : toLower text ≠ word := by
  obtain ⟨d, r, shape, low⟩ := Integer64.toNat_lt_of_read read
  intro same
  have both := head?_toLower shape low
  rw [same, first] at both
  cases both
  omega

/-! ## Spelling -/

/-- A text that reads neither as a boolean nor as a number. -/
structure IsPlain (text : String) : Prop where
  ne_true : toLower text ≠ "true"
  ne_false : toLower text ≠ "false"
  no_integer : (Integer64.read text.toList).toOption = none
  no_double : Binary64.read? text.toList = none

instance (text : String) : Decidable (IsPlain text) :=
  decidable_of_iff
    (toLower text ≠ "true" ∧ toLower text ≠ "false" ∧
      (Integer64.read text.toList).toOption = none ∧ Binary64.read? text.toList = none)
    ⟨fun ⟨a, b, c, d⟩ => ⟨a, b, c, d⟩, fun ⟨a, b, c, d⟩ => ⟨a, b, c, d⟩⟩

/-- How a value of a kind is spelt in the environment. -/
def Kind.Spells : (kind : Kind) → String → kind.Datum → Prop
  | .text, written, s => written = s ∧ IsPlain written
  | .port, written, n => Integer64.read written.toList = .ok n.toNat
  | .boolean, written, b => toLower written = if b then "true" else "false"
  | .texts, written, ss =>
      written.toList = Pieces.join ',' (ss.map String.toList) ∧ IsPlain written ∧ ss ≠ [] ∧
        ∀ s ∈ ss, ',' ∉ s.toList
  | .seconds, written, n => Integer64.read written.toList = .ok n.toNat

/-- A port is spelt by its digits. -/
theorem spells_port (n : UInt16) : Kind.port.Spells (String.ofList (Decimal.digits n.toNat)) n := by
  have small : n.toNat ≤ Integer64.maxValue :=
    Nat.le_trans (Nat.le_of_lt n.toNat_lt) (by decide)
  show Integer64.read (String.ofList (Decimal.digits n.toNat)).toList = _
  rw [String.toList_ofList]
  exact Integer64.read_digits small

/-- So is a number of seconds that has a spelling at all. -/
theorem spells_seconds {n : UInt64} (small : n.toNat ≤ Integer64.maxValue) :
    Kind.seconds.Spells (String.ofList (Decimal.digits n.toNat)) n := by
  show Integer64.read (String.ofList (Decimal.digits n.toNat)).toList = _
  rw [String.toList_ofList]
  exact Integer64.read_digits small

theorem mem_listKeys_iff (k : Setting) : k.key ∈ Environment.listKeys ↔ k.kind = .texts := by
  cases k <;> decide +kernel

theorem read_of_isPlain {text : String} (plain : IsPlain text) (key : String) :
    Environment.read key text =
      if key ∈ Environment.listKeys then
        .sequence none ((Pieces.split ',' text.toList).map fun s => .ofText (String.ofList s))
      else .ofText text := by
  rw [Environment.read, if_neg plain.ne_true, if_neg plain.ne_false, plain.no_double]
  cases integer : Integer64.read text.toList with
  | ok n =>
      have none := plain.no_integer
      rw [integer] at none
      cases none
  | error refusal => rfl

theorem read_of_integer {text : String} {n : Int} (read : Integer64.read text.toList = .ok n)
    (key : String) : Environment.read key text = .ofScalar (.integer n) := by
  have noTrue : toLower text ≠ "true" := toLower_ne_of_read read (c := 't') rfl (by decide)
  have noFalse : toLower text ≠ "false" := toLower_ne_of_read read (c := 'f') rfl (by decide)
  rw [Environment.read, if_neg noTrue, if_neg noFalse, read]

theorem forall₂_isText (ss : List String) :
    List.Forall₂ Value.IsText (ss.map fun s => .ofText s) ss := by
  induction ss with
  | nil => exact .nil
  | cons s ss ih => exact .cons ⟨none, rfl⟩ ih

theorem holds_read_texts {key text : String} (list : key ∈ Environment.listKeys)
    {ss : List String} (spells : Kind.texts.Spells text ss) :
    Kind.texts.Holds (Environment.read key text) ss := by
  obtain ⟨joined, plain, filled, free⟩ := spells
  have pieces : Pieces.split ',' text.toList = ss.map String.toList := by
    rw [joined]
    apply Pieces.split_join
    · simpa using filled
    · simpa using free
  rw [read_of_isPlain plain, if_pos list, pieces, List.map_map]
  refine ⟨none, _, rfl, ?_⟩
  simpa [Function.comp_def] using forall₂_isText ss

/-- **What is spelt is what is read.** -/
theorem holds_read {k : Setting} {text : String} {y : k.kind.Datum}
    (spells : k.kind.Spells text y) : k.kind.Holds (Environment.read k.key text) y := by
  have list := mem_listKeys_iff k
  generalize k.key = key at list ⊢
  generalize k.kind = kind at list y spells
  cases kind with
  | text =>
      obtain ⟨rfl, plain⟩ := spells
      rw [read_of_isPlain plain, if_neg fun member => nomatch list.1 member]
      exact ⟨none, rfl⟩
  | port =>
      rw [read_of_integer spells]
      exact ⟨none, rfl⟩
  | boolean =>
      have lower : toLower text = if y then "true" else "false" := spells
      refine ⟨none, ?_⟩
      cases y <;> simp [Environment.read, lower, Value.ofScalar]
  | texts =>
      exact holds_read_texts (list.2 rfl) spells
  | seconds =>
      rw [read_of_integer spells]
      exact ⟨none, rfl⟩

/-! ## Variables -/

/-- The name of the variable of a setting, in lower case. -/
def Setting.variable_ (k : Setting) : String := "preview__" ++ k.area ++ "__" ++ k.name

theorem key?_of_toLower {name : String} {k : Setting} (named : toLower name = k.variable_) :
    Environment.key? name = some k.key := by
  rw [Environment.key?, named]
  cases k <;> decide +kernel

/-- Variables that spell the values of a layer, each under the name of its setting in any
letter case; others may be there that are none of the program's. -/
structure Environment.Assigns (environment : List (String × String)) (l : Layer) : Prop where
  sound : ∀ x ∈ environment, Environment.mark.isPrefixOf (toLower x.1).toList →
    ∃ (k : Setting) (y : k.kind.Datum), toLower x.1 = k.variable_ ∧ l k = some y ∧
      k.kind.Spells x.2 y
  complete : ∀ k y, l k = some y → ∃ x ∈ environment, toLower x.1 = Setting.variable_ k

/-- **Variables tell the layer whose values they spell.** -/
theorem tells_collect {environment : List (String × String)} {l : Layer}
    (assigns : Environment.Assigns environment l) : Tells (Environment.collect environment) l := by
  apply tells_of_keys
  · intro x member
    obtain ⟨⟨name, text⟩, inside, collected⟩ := List.mem_filterMap.1 member
    obtain ⟨key, known, rfl⟩ := Option.map_eq_some_iff.1 collected
    have marked : Environment.mark.isPrefixOf (toLower name).toList := by
      unfold Environment.key? at known
      dsimp only at known
      split at known
      · assumption
      · cases known
    obtain ⟨k, y, named, set, spells⟩ := assigns.sound _ inside marked
    obtain rfl : key = k.key := Option.some.inj (known.symm.trans (key?_of_toLower named))
    exact ⟨k, y, rfl, set, holds_withOrigin _ (holds_read spells)⟩
  · intro k y set
    obtain ⟨⟨name, text⟩, inside, named⟩ := assigns.complete k y set
    refine ⟨(Environment.read k.key text).withOrigin Environment.origin, ?_⟩
    refine List.mem_filterMap.2 ⟨(name, text), inside, ?_⟩
    dsimp only
    rw [key?_of_toLower named, Option.map_some]

end StaticPreview.Settings
