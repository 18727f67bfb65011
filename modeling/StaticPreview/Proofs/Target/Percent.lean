/-
# StaticPreview.Proofs.Target.Percent -- a written path reads back

Every byte of a text is written as itself or as an escape, and reading takes exactly that
byte off the front again, whatever stands behind it (`unescape_encodeByte`).  So a text
of any kind, percent signs and escapes in it included, is what its written form reads
back to: `decode_encodePath`.

What is written is made of few characters (`isWritten_of_mem`), none of which begins a
query or a fragment, and a solidus stands there only for a solidus
(`slash_mem_encodePath`).
-/
import StaticPreview.Proofs.Text.Utf8
import StaticPreview.Target.Percent

namespace StaticPreview.Target.Percent

open StaticPreview.Text

/-- What holds of the first 256 numbers as bytes holds of every byte. -/
theorem forall_byte {p : UInt8 → Prop} (h : ∀ n, n < 256 → p n.toUInt8) (b : UInt8) : p b := by
  have back : b.toNat.toUInt8 = b := UInt8.ofNat_toNat
  rw [← back]
  exact h b.toNat b.toNat_lt

/-! ## Reading -/

theorem unescape_cons {b : UInt8} (h : b ≠ sign) (r : Bytes) :
    unescape (b :: r) = b :: unescape r := by
  rcases r with _ | ⟨c, _ | ⟨d, r⟩⟩
  · rfl
  · rfl
  · rw [unescape, if_neg h]

theorem unescape_sign {x y h l : UInt8} (high : Bytes.hexValue? h = some x)
    (low : Bytes.hexValue? l = some y) (r : Bytes) :
    unescape (sign :: h :: l :: r) = (x * 16 + y) :: unescape r := by
  rw [unescape, if_pos rfl, high, low]

theorem hexValue?_hexDigit (b : UInt8) :
    Bytes.hexValue? (Bytes.hexDigit (b / 16)) = some (b / 16) ∧
      Bytes.hexValue? (Bytes.hexDigit (b % 16)) = some (b % 16) ∧ b / 16 * 16 + b % 16 = b := by
  revert b
  exact forall_byte (by decide +kernel)

/-- The characters that stand for a byte are ASCII, and are the byte or its escape. -/
theorem encode_encodeByte (b : UInt8) :
    Utf8.encode (encodeByte b) =
      if isPlain b then [b] else [sign, Bytes.hexDigit (b / 16), Bytes.hexDigit (b % 16)] := by
  revert b
  exact forall_byte (by decide +kernel)

/-- **What stands for a byte is read as that byte, whatever follows.** -/
theorem unescape_encodeByte (b : UInt8) (r : Bytes) :
    unescape (Utf8.encode (encodeByte b) ++ r) = b :: unescape r := by
  rw [encode_encodeByte]
  by_cases plain : isPlain b = true
  · have other : b ≠ sign := by
      rintro rfl
      exact absurd plain (by decide)
    rw [if_pos plain]
    exact unescape_cons other r
  · obtain ⟨high, low, whole⟩ := hexValue?_hexDigit b
    rw [if_neg plain]
    exact (unescape_sign high low r).trans (by rw [whole])

theorem unescape_encode_flatMap (s : Bytes) (r : Bytes) :
    unescape (Utf8.encode (s.flatMap encodeByte) ++ r) = s ++ unescape r := by
  induction s with
  | nil => rfl
  | cons b s ih =>
      rw [List.flatMap_cons, Utf8.encode_append, List.append_assoc, unescape_encodeByte, ih,
        List.cons_append]

/-- **A written text reads back as the text.** -/
theorem decode_encodePath (s : List Char) : decode (encodePath s) = s := by
  have bytes : unescape (Utf8.encode (encodePath s)) = Utf8.encode s := by
    have read := unescape_encode_flatMap (Utf8.encode s) []
    rwa [List.append_nil, unescape, List.append_nil] at read
  rw [decode, bytes, Utf8.decodeLossy_encode]

/-! ## What is written -/

/-- Whether a character can stand in what is written. -/
def isWritten (c : Char) : Bool := c.toNat < 0x80 && (c = '%' || isPlain c.toNat.toUInt8)

theorem encodeByte_facts (b : UInt8) :
    ((encodeByte b).all fun c => isWritten c && (c != '/' || b == 0x2F)) = true ∧
      (encodeByte b).length ≤ 3 := by
  revert b
  exact forall_byte (by decide +kernel)

theorem isWritten_of_mem {s : List Char} {c : Char} (h : c ∈ encodePath s) :
    isWritten c = true := by
  obtain ⟨b, -, written⟩ := List.mem_flatMap.1 h
  have facts := List.all_eq_true.1 (encodeByte_facts b).1 c written
  exact (Bool.and_eq_true_iff.1 facts).1

/-- A solidus is written only for a solidus. -/
theorem slash_mem_encodePath {s : List Char} (h : '/' ∈ encodePath s) : '/' ∈ s := by
  obtain ⟨b, member, written⟩ := List.mem_flatMap.1 h
  have facts := List.all_eq_true.1 (encodeByte_facts b).1 '/' written
  obtain rfl : b = 0x2F := eq_of_beq (Bool.and_eq_true_iff.1 facts).2
  exact (Utf8.mem_encode_ascii (by decide) s).1 member

theorem encodePath_ne_nil {s : List Char} (h : s ≠ []) : encodePath s ≠ [] := by
  intro nothing
  have read := decode_encodePath s
  rw [nothing] at read
  exact h read.symm

theorem length_encodePath_le (s : List Char) :
    (encodePath s).length ≤ 3 * (Utf8.encode s).length := by
  unfold encodePath
  induction Utf8.encode s with
  | nil => exact Nat.le_refl 0
  | cons b bytes ih =>
      have short := (encodeByte_facts b).2
      rw [List.flatMap_cons, List.length_append, List.length_cons]
      omega

end StaticPreview.Target.Percent
