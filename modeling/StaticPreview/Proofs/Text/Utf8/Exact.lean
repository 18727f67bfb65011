/-
# StaticPreview.Proofs.Text.Utf8.Exact -- only what is written reads as text

The ranges that the reader holds the bytes of a character to are no wider than what
`encodeChar` writes: a character that comes out first was written by the bytes in front
(`exists_of_run_some`), neither longer than it has to be nor as half of a pair.  So a byte
string that is UTF-8 is the bytes of what it reads to, and reading without a broken piece
and writing are inverse to each other: `decode?_eq_some_iff`.
-/
import StaticPreview.Proofs.Text.Utf8

namespace StaticPreview.Text.Utf8

variable {v owed n : Nat} {lo hi : UInt8} {s : Bytes} {c : Char} {more : Pieces}

theorem toUInt8_eq {b : UInt8} (h : n = b.toNat) : n.toUInt8 = b := by
  rw [h]
  exact UInt8.ofNat_toNat

/-! ## Inside a character -/

/-- A character comes out of the inside of one only through a byte that fits. -/
theorem fits_of_run_inside (h : run (.inside v owed lo hi) s = some c :: more) :
    ∃ b rest, s = b :: rest ∧ lo.toNat ≤ b.toNat ∧ b.toNat ≤ hi.toNat := by
  cases s with
  | nil => simp [run] at h
  | cons b rest =>
      refine ⟨b, rest, rfl, ?_⟩
      rw [run_cons, step] at h
      split at h
      · rename_i fits
        exact ⟨UInt8.le_iff_toNat_le.1 fits.1, UInt8.le_iff_toNat_le.1 fits.2⟩
      · simp at h

theorem of_run_inside_last (h : run (.inside v 1 lo hi) s = some c :: more) :
    ∃ b rest, s = b :: rest ∧ lo.toNat ≤ b.toNat ∧ b.toNat ≤ hi.toNat ∧
      c = Char.ofNat (v * 64 + (b.toNat - 0x80)) ∧ run .start rest = more := by
  obtain ⟨b, rest, rfl, low, high⟩ := fits_of_run_inside h
  rw [run_inside_last low high] at h
  obtain ⟨shown, behind⟩ := List.cons.inj h
  exact ⟨b, rest, rfl, low, high, (Option.some.inj shown).symm, behind⟩

theorem of_run_inside_more (owed : Nat)
    (h : run (.inside v (owed + 2) lo hi) s = some c :: more) :
    ∃ b rest, s = b :: rest ∧ lo.toNat ≤ b.toNat ∧ b.toNat ≤ hi.toNat ∧
      run (.inside (v * 64 + (b.toNat - 0x80)) (owed + 1) 0x80 0xBF) rest = some c :: more := by
  obtain ⟨b, rest, rfl, low, high⟩ := fits_of_run_inside h
  rw [run_inside_more low high] at h
  exact ⟨b, rest, rfl, low, high, h⟩

/-! ## The three lengths beyond ASCII -/

/-- The bytes of a character in front of a string that reads to `more`. -/
def WrittenFirst (c : Char) (more : Pieces) (s : Bytes) : Prop :=
  ∃ rest, s = encodeChar c ++ rest ∧ run .start rest = more

/-- Of two bytes, the first one keeps the value from being ASCII. -/
theorem written_two {b : UInt8} (low : 0xC2 ≤ b.toNat) (high : b.toNat < 0xE0)
    (h : run (.inside (b.toNat - 0xC0) 1 0x80 0xBF) s = some c :: more) :
    WrittenFirst c more (b :: s) := by
  obtain ⟨b₂, rest, rfl, low₂, high₂, shown, behind⟩ := of_run_inside_last h
  change 128 ≤ _ at low₂
  change _ ≤ 191 at high₂
  refine ⟨rest, ?_, behind⟩
  have value := toNat_ofNat (n := (b.toNat - 0xC0) * 64 + (b₂.toNat - 0x80)) (by omega)
  rw [shown, encodeChar]
  rw [value, if_neg (by omega), if_pos (by omega), toUInt8_eq (b := b) (by omega),
    toUInt8_eq (b := b₂) (by omega)]
  rfl

/-- Of three bytes, the range of the second one keeps the value from being that of a
shorter character or of half a pair. -/
theorem written_three {b : UInt8} (low : 0xE0 ≤ b.toNat) (high : b.toNat < 0xF0)
    (least : b.toNat = 0xE0 → 0xA0 ≤ lo.toNat) (whole : b.toNat = 0xED → hi.toNat ≤ 0x9F)
    (tail : 0x80 ≤ lo.toNat ∧ hi.toNat ≤ 0xBF)
    (h : run (.inside (b.toNat - 0xE0) 2 lo hi) s = some c :: more) :
    WrittenFirst c more (b :: s) := by
  obtain ⟨b₂, rest₂, rfl, low₂, high₂, inside⟩ := of_run_inside_more 0 h
  obtain ⟨b₃, rest, rfl, low₃, high₃, shown, behind⟩ := of_run_inside_last inside
  change 128 ≤ _ at low₃
  change _ ≤ 191 at high₃
  refine ⟨rest, ?_, behind⟩
  have value := toNat_ofNat
    (n := ((b.toNat - 0xE0) * 64 + (b₂.toNat - 0x80)) * 64 + (b₃.toNat - 0x80)) (by omega)
  rw [shown, encodeChar]
  rw [value, if_neg (by omega), if_neg (by omega), if_pos (by omega),
    toUInt8_eq (b := b) (by omega), toUInt8_eq (b := b₂) (by omega),
    toUInt8_eq (b := b₃) (by omega)]
  rfl

/-- Of four bytes, the range of the second one keeps the value from being that of a
shorter character or beyond the last one. -/
theorem written_four {b : UInt8} (low : 0xF0 ≤ b.toNat) (high : b.toNat ≤ 0xF4)
    (least : b.toNat = 0xF0 → 0x90 ≤ lo.toNat) (greatest : b.toNat = 0xF4 → hi.toNat ≤ 0x8F)
    (tail : 0x80 ≤ lo.toNat ∧ hi.toNat ≤ 0xBF)
    (h : run (.inside (b.toNat - 0xF0) 3 lo hi) s = some c :: more) :
    WrittenFirst c more (b :: s) := by
  obtain ⟨b₂, rest₂, rfl, low₂, high₂, inside₂⟩ := of_run_inside_more 1 h
  obtain ⟨b₃, rest₃, rfl, low₃, high₃, inside₃⟩ := of_run_inside_more 0 inside₂
  obtain ⟨b₄, rest, rfl, low₄, high₄, shown, behind⟩ := of_run_inside_last inside₃
  change 128 ≤ _ at low₃ low₄
  change _ ≤ 191 at high₃ high₄
  refine ⟨rest, ?_, behind⟩
  have value := toNat_ofNat
    (n := (((b.toNat - 0xF0) * 64 + (b₂.toNat - 0x80)) * 64 + (b₃.toNat - 0x80)) * 64 +
      (b₄.toNat - 0x80)) (by omega)
  rw [shown, encodeChar]
  rw [value, if_neg (by omega), if_neg (by omega), if_neg (by omega),
    toUInt8_eq (b := b) (by omega), toUInt8_eq (b := b₂) (by omega),
    toUInt8_eq (b := b₃) (by omega), toUInt8_eq (b := b₄) (by omega)]
  rfl

/-! ## Whole texts -/

/-- **A character that comes out first was written by the bytes in front.** -/
theorem exists_of_run_some (h : run .start s = some c :: more) : WrittenFirst c more s := by
  cases s with
  | nil => cases h
  | cons b s =>
      rw [run_cons, step, first_toNat] at h
      split at h
      · -- ASCII
        rename_i ascii
        obtain ⟨shown, behind⟩ := List.cons.inj h
        refine ⟨s, ?_, behind⟩
        have value := toNat_ofNat (n := b.toNat) (by omega)
        rw [← Option.some.inj shown, encodeChar_ascii (by omega), value,
          toUInt8_eq (b := b) rfl]
        rfl
      split at h
      · cases h
      split at h
      · exact written_two (by omega) (by omega) h
      split at h
      · rename_i first
        rw [show (0 : Nat) = b.toNat - 0xE0 by omega] at h
        exact written_three (by omega) (by omega) (fun _ => by decide) (by omega) (by decide) h
      split at h
      · rename_i first
        rw [show (0xD : Nat) = b.toNat - 0xE0 by omega] at h
        exact written_three (by omega) (by omega) (by omega) (fun _ => by decide) (by decide) h
      split at h
      · exact written_three (by omega) (by omega) (by omega) (by omega) (by decide) h
      split at h
      · rename_i first
        rw [show (0 : Nat) = b.toNat - 0xF0 by omega] at h
        exact written_four (by omega) (by omega) (fun _ => by decide) (by omega) (by decide) h
      split at h
      · exact written_four (by omega) (by omega) (by omega) (by omega) (by decide) h
      split at h
      · rename_i first
        rw [show (4 : Nat) = b.toNat - 0xF0 by omega] at h
        exact written_four (by omega) (by omega) (by omega) (fun _ => by decide) (by decide) h
      · cases h

/-- A character that was begun yields a piece, at the latest with the end. -/
theorem run_ne_nil_of_inside (s : Bytes) : run (.inside v owed lo hi) s ≠ [] := by
  induction s generalizing v owed lo hi with
  | nil => simp [run]
  | cons b s ih =>
      rw [run_cons, step]
      split
      · dsimp only
        split
        · simp
        · exact ih
      · simp

theorem eq_nil_of_run_eq_nil (h : run .start s = []) : s = [] := by
  cases s with
  | nil => rfl
  | cons b s =>
      rw [run_cons, step] at h
      obtain ⟨none_, rest⟩ := List.append_eq_nil_iff.1 h
      unfold first at none_ rest
      repeat' split at none_
      all_goals simp_all [run_ne_nil_of_inside]

theorem encode_of_run {t : List Char} (h : run .start s = t.map some) : encode t = s := by
  induction t generalizing s with
  | nil => exact (eq_nil_of_run_eq_nil h).symm
  | cons c t ih =>
      obtain ⟨rest, rfl, behind⟩ := exists_of_run_some h
      rw [encode_cons, ih behind]

theorem eq_map_of_mapM {pieces : Pieces} {t : List Char} (h : pieces.mapM id = some t) :
    pieces = t.map some := by
  induction pieces generalizing t with
  | nil =>
      cases h
      rfl
  | cons piece pieces ih =>
      rw [List.mapM_cons, Option.bind_eq_bind, Option.bind_eq_some_iff] at h
      obtain ⟨c, rfl, h⟩ := h
      obtain ⟨t, rest, whole⟩ := Option.bind_eq_some_iff.1 h
      cases whole
      rw [ih rest]
      rfl

/-- **Reading without a broken piece and writing are inverse to each other.** -/
theorem decode?_eq_some_iff {t : List Char} : decode? s = some t ↔ encode t = s := by
  constructor
  · intro read
    exact encode_of_run (eq_map_of_mapM read)
  · rintro rfl
    exact decode?_encode t

end StaticPreview.Text.Utf8
