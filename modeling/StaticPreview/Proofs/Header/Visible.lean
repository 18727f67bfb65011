/-
# StaticPreview.Proofs.Header.Visible -- values that are sent as text and read as text

A text is visible when its characters are ASCII and none of them is a control.  Its bytes
are its characters (`encode_of_isVisible`), so it may stand in a field whatever the field
is called (`Field.ofText_visible`), and what is read of the field is the text again
(`Field.text?_ofString`).
-/
import StaticPreview.Header
import StaticPreview.Proofs.Text.Utf8

namespace StaticPreview

open StaticPreview.Text

namespace Header

/-- Whether a character is ASCII and no control. -/
def isVisibleChar (c : Char) : Bool := 0x20 ≤ c.toNat && c.toNat < 0x7F

/-- Whether a text is visible. -/
def isVisible (s : List Char) : Bool := s.all isVisibleChar

@[simp] theorem isVisible_append (s t : List Char) :
    isVisible (s ++ t) = (isVisible s && isVisible t) := List.all_append

@[simp] theorem isVisible_cons (c : Char) (s : List Char) :
    isVisible (c :: s) = (isVisibleChar c && isVisible s) := List.all_cons

variable {s : List Char} {c : Char}

theorem toNat_of_isVisible (visible : isVisible s = true) (h : c ∈ s) :
    0x20 ≤ c.toNat ∧ c.toNat < 0x7F := by
  have held := List.all_eq_true.1 visible c h
  simpa [isVisibleChar] using held

theorem encode_of_isVisible (visible : isVisible s = true) :
    Utf8.encode s = s.map fun c => c.toNat.toUInt8 := by
  apply Utf8.encode_ascii
  intro c h
  have bounds := toNat_of_isVisible visible h
  omega

theorem toNat_toUInt8_of_isVisible (visible : isVisible s = true) (h : c ∈ s) :
    c.toNat.toUInt8.toNat = c.toNat := by
  have bounds := toNat_of_isVisible visible h
  exact Utf8.toNat_toUInt8 (by omega)

/-- Every byte of a visible text may stand in a value, and is visible there. -/
theorem isVisibleByte_of_mem_encode (visible : isVisible s = true) {b : UInt8}
    (h : b ∈ Utf8.encode s) : isVisibleByte b = true ∧ isValueByte b = true := by
  rw [encode_of_isVisible visible] at h
  obtain ⟨c, member, rfl⟩ := List.mem_map.1 h
  obtain ⟨low, high⟩ := toNat_of_isVisible visible member
  have value := toNat_toUInt8_of_isVisible visible member
  have least : 0x20 ≤ c.toNat.toUInt8 := by
    rw [UInt8.le_iff_toNat_le, value]
    exact low
  have greatest : c.toNat.toUInt8 < 0x7F := by
    rw [UInt8.lt_iff_toNat_lt, value]
    exact high
  have other : c.toNat.toUInt8 ≠ 0x7F := by
    intro same
    rw [same] at greatest
    exact absurd greatest (by decide)
  simp [isVisibleByte, isValueByte, least, greatest, other]

theorem asciiText_ofString {text : String} (visible : isVisible text.toList = true) :
    asciiText (Bytes.ofString text) = text := by
  have back : (text.toList.map fun c => c.toNat.toUInt8).map (fun b => Char.ofNat b.toNat) =
      text.toList := by
    rw [List.map_map]
    conv => rhs; rw [← List.map_id text.toList]
    apply List.map_congr_left
    intro c member
    show Char.ofNat c.toNat.toUInt8.toNat = c
    rw [toNat_toUInt8_of_isVisible visible member, Char.ofNat_toNat]
  rw [asciiText, Bytes.ofString, encode_of_isVisible visible, back, String.ofList_toList]

end Header

namespace Field

open Header

/-- **A visible value is read as the text that it was written from.** -/
theorem text?_ofString (name : String) {text : String} (visible : isVisible text.toList = true) :
    text? { name, value := Bytes.ofString text } = some text := by
  have all : (Bytes.ofString text).all isVisibleByte = true := by
    rw [List.all_eq_true]
    intro b member
    exact (isVisibleByte_of_mem_encode visible member).1
  rw [text?, if_pos all, asciiText_ofString visible]

/-- A text whose bytes may stand in a value may be one. -/
theorem ofText_of_isValueByte {name text : String} (named : isName (Bytes.ofString name) = true)
    (allowed : ∀ b ∈ Bytes.ofString text, isValueByte b = true) :
    ofText name text =
      .ok { name := asciiText ((Bytes.ofString name).map Bytes.lowerAscii),
            value := Bytes.ofString text } := by
  have all : (Bytes.ofString text).all isValueByte = true := List.all_eq_true.2 allowed
  simp [ofText, ofBytes, named, all]

/-- **A visible text may be the value of a field.** -/
theorem ofText_visible {name text : String} (named : isName (Bytes.ofString name) = true)
    (visible : isVisible text.toList = true) :
    ofText name text =
      .ok { name := asciiText ((Bytes.ofString name).map Bytes.lowerAscii),
            value := Bytes.ofString text } :=
  ofText_of_isValueByte named fun _ member => (isVisibleByte_of_mem_encode visible member).2

end Field

end StaticPreview
