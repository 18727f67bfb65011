/-
# StaticPreview.Proofs.Text.Utf8 -- what is written in UTF-8 reads back

The machine that reads bytes takes the bytes of one character in one pass and is
between characters again (`run_encodeChar`): the first byte says how many are
owed, and the ranges that the second byte is held to are exactly those in which
the code points of that length lie.  So a text is what its bytes read back to
(`decode?_encode`, `decodeLossy_encode`), no two texts have the same bytes
(`encode_injective`), and an ASCII byte among them is that character of the text
(`mem_encode_ascii`), so the bytes may be cut at it where the text is
(`takeWhile_encode_ne`).
-/
import StaticPreview.Text.Utf8

namespace StaticPreview.Text.Utf8

/-- A code point is below `0x110000` and no surrogate. -/
theorem toNat_bounds (c : Char) :
    c.toNat < 0x110000 ∧ ¬ (0xD800 ≤ c.toNat ∧ c.toNat < 0xE000) := by
  have valid : c.toNat.isValidChar := c.valid
  unfold Nat.isValidChar at valid
  omega

theorem toNat_toUInt8 {n : Nat} (h : n < 256) : n.toUInt8.toNat = n := by
  rw [Nat.toUInt8, UInt8.toNat_ofNat']
  omega

theorem toNat_ofNat {n : Nat} (valid : n < 0xD800 ∨ 0xDFFF < n ∧ n < 0x110000) :
    (Char.ofNat n).toNat = n := by
  rw [Char.ofNat, dif_pos (show n.isValidChar from valid)]
  rfl

/-! ## One character -/

/-- The first byte of a character, told apart by its value. -/
theorem first_toNat (b : UInt8) : first b =
    if b.toNat < 0x80 then (.start, [some (Char.ofNat b.toNat)])
    else if b.toNat < 0xC2 then (.start, [none])
    else if b.toNat < 0xE0 then (.inside (b.toNat - 0xC0) 1 0x80 0xBF, [])
    else if b.toNat = 0xE0 then (.inside 0 2 0xA0 0xBF, [])
    else if b.toNat = 0xED then (.inside 0xD 2 0x80 0x9F, [])
    else if b.toNat < 0xF0 then (.inside (b.toNat - 0xE0) 2 0x80 0xBF, [])
    else if b.toNat = 0xF0 then (.inside 0 3 0x90 0xBF, [])
    else if b.toNat < 0xF4 then (.inside (b.toNat - 0xF0) 3 0x80 0xBF, [])
    else if b.toNat = 0xF4 then (.inside 4 3 0x80 0x8F, [])
    else (.start, [none]) := by
  simp only [first, UInt8.lt_iff_toNat_lt, ← UInt8.toNat_inj, UInt8.reduceToNat]

/-- The last byte of a character. -/
theorem run_inside_last {v : Nat} {lo hi b : UInt8} (low : lo.toNat ≤ b.toNat)
    (high : b.toNat ≤ hi.toNat) (r : Bytes) :
    run (.inside v 1 lo hi) (b :: r) =
      some (Char.ofNat (v * 64 + (b.toNat - 0x80))) :: run .start r := by
  have fits : lo ≤ b ∧ b ≤ hi := by
    simpa only [UInt8.le_iff_toNat_le] using And.intro low high
  rw [run_cons]
  simp [step, fits]

/-- A byte of a character behind which more are owed. -/
theorem run_inside_more {v owed : Nat} {lo hi b : UInt8} (low : lo.toNat ≤ b.toNat)
    (high : b.toNat ≤ hi.toNat) (r : Bytes) :
    run (.inside v (owed + 2) lo hi) (b :: r) =
      run (.inside (v * 64 + (b.toNat - 0x80)) (owed + 1) 0x80 0xBF) r := by
  have fits : lo ≤ b ∧ b ≤ hi := by
    simpa only [UInt8.le_iff_toNat_le] using And.intro low high
  rw [run_cons]
  simp [step, fits]

/-- A character of two bytes, by the value that they make up. -/
theorem run_two {n : Nat} (low : 0x80 ≤ n) (high : n < 0x800) (r : Bytes) :
    run .start ((0xC0 + n / 64).toUInt8 :: (0x80 + n % 64).toUInt8 :: r) =
      some (Char.ofNat n) :: run .start r := by
  have h1 := toNat_toUInt8 (n := 0xC0 + n / 64) (by omega)
  have h2 := toNat_toUInt8 (n := 0x80 + n % 64) (by omega)
  have hfirst : first (0xC0 + n / 64).toUInt8 = (.inside (n / 64) 1 0x80 0xBF, []) := by
    rw [first_toNat, h1, if_neg (by omega), if_neg (by omega), if_pos (by omega)]
    rw [Nat.add_sub_cancel_left]
  rw [run_cons, step, hfirst, List.nil_append,
    run_inside_last (by rw [h2]; change 128 ≤ _; omega) (by rw [h2]; change _ ≤ 191; omega), h2,
    Nat.add_sub_cancel_left, show n / 64 * 64 + n % 64 = n by omega]

/-- A character of three bytes: the second byte is held higher at the least values,
and lower below the surrogates. -/
theorem run_three {n : Nat} (low : 0x800 ≤ n) (high : n < 0x10000)
    (whole : ¬ (0xD800 ≤ n ∧ n < 0xE000)) (r : Bytes) :
    run .start ((0xE0 + n / 4096).toUInt8 :: (0x80 + n / 64 % 64).toUInt8 ::
      (0x80 + n % 64).toUInt8 :: r) = some (Char.ofNat n) :: run .start r := by
  have h1 := toNat_toUInt8 (n := 0xE0 + n / 4096) (by omega)
  have h2 := toNat_toUInt8 (n := 0x80 + n / 64 % 64) (by omega)
  have h3 := toNat_toUInt8 (n := 0x80 + n % 64) (by omega)
  obtain ⟨lo, hi, hfirst, hlo, hhi⟩ : ∃ lo hi : UInt8,
      first (0xE0 + n / 4096).toUInt8 = (.inside (n / 4096) 2 lo hi, []) ∧
        lo.toNat ≤ 0x80 + n / 64 % 64 ∧ 0x80 + n / 64 % 64 ≤ hi.toNat := by
    rw [first_toNat, h1, if_neg (by omega), if_neg (by omega), if_neg (by omega)]
    by_cases least : n / 4096 = 0
    · refine ⟨0xA0, 0xBF, ?_, ?_, ?_⟩
      · rw [if_pos (by omega), least]
      · change 160 ≤ _; omega
      · change _ ≤ 191; omega
    · rw [if_neg (by omega)]
      by_cases surrogate : n / 4096 = 0xD
      · refine ⟨0x80, 0x9F, ?_, ?_, ?_⟩
        · rw [if_pos (by omega), surrogate]
        · change 128 ≤ _; omega
        · change _ ≤ 159; omega
      · refine ⟨0x80, 0xBF, ?_, ?_, ?_⟩
        · rw [if_neg (by omega), if_pos (by omega), Nat.add_sub_cancel_left]
        · change 128 ≤ _; omega
        · change _ ≤ 191; omega
  rw [run_cons, step, hfirst, List.nil_append, run_inside_more (by rwa [h2]) (by rwa [h2]), h2,
    run_inside_last (by rw [h3]; change 128 ≤ _; omega) (by rw [h3]; change _ ≤ 191; omega), h3,
    Nat.add_sub_cancel_left, Nat.add_sub_cancel_left,
    show (n / 4096 * 64 + n / 64 % 64) * 64 + n % 64 = n by omega]

/-- A character of four bytes: the second byte is held higher at the least values,
and lower at the greatest. -/
theorem run_four {n : Nat} (low : 0x10000 ≤ n) (high : n < 0x110000) (r : Bytes) :
    run .start ((0xF0 + n / 262144).toUInt8 :: (0x80 + n / 4096 % 64).toUInt8 ::
      (0x80 + n / 64 % 64).toUInt8 :: (0x80 + n % 64).toUInt8 :: r) =
        some (Char.ofNat n) :: run .start r := by
  have h1 := toNat_toUInt8 (n := 0xF0 + n / 262144) (by omega)
  have h2 := toNat_toUInt8 (n := 0x80 + n / 4096 % 64) (by omega)
  have h3 := toNat_toUInt8 (n := 0x80 + n / 64 % 64) (by omega)
  have h4 := toNat_toUInt8 (n := 0x80 + n % 64) (by omega)
  obtain ⟨lo, hi, hfirst, hlo, hhi⟩ : ∃ lo hi : UInt8,
      first (0xF0 + n / 262144).toUInt8 = (.inside (n / 262144) 3 lo hi, []) ∧
        lo.toNat ≤ 0x80 + n / 4096 % 64 ∧ 0x80 + n / 4096 % 64 ≤ hi.toNat := by
    rw [first_toNat, h1, if_neg (by omega), if_neg (by omega), if_neg (by omega),
      if_neg (by omega), if_neg (by omega), if_neg (by omega)]
    by_cases least : n / 262144 = 0
    · refine ⟨0x90, 0xBF, ?_, ?_, ?_⟩
      · rw [if_pos (by omega), least]
      · change 144 ≤ _; omega
      · change _ ≤ 191; omega
    · rw [if_neg (by omega)]
      by_cases greatest : n / 262144 = 4
      · refine ⟨0x80, 0x8F, ?_, ?_, ?_⟩
        · rw [if_neg (by omega), if_pos (by omega), greatest]
        · change 128 ≤ _; omega
        · change _ ≤ 143; omega
      · refine ⟨0x80, 0xBF, ?_, ?_, ?_⟩
        · rw [if_pos (by omega), Nat.add_sub_cancel_left]
        · change 128 ≤ _; omega
        · change _ ≤ 191; omega
  rw [run_cons, step, hfirst, List.nil_append, run_inside_more (by rwa [h2]) (by rwa [h2]), h2,
    run_inside_more (by rw [h3]; change 128 ≤ _; omega) (by rw [h3]; change _ ≤ 191; omega), h3,
    run_inside_last (by rw [h4]; change 128 ≤ _; omega) (by rw [h4]; change _ ≤ 191; omega), h4,
    Nat.add_sub_cancel_left, Nat.add_sub_cancel_left, Nat.add_sub_cancel_left,
    show ((n / 262144 * 64 + n / 4096 % 64) * 64 + n / 64 % 64) * 64 + n % 64 = n by omega]

/-- **The bytes of a character are read in one pass.** -/
theorem run_encodeChar (c : Char) (r : Bytes) :
    run .start (encodeChar c ++ r) = some c :: run .start r := by
  obtain ⟨high, whole⟩ := toNat_bounds c
  have back : Char.ofNat c.toNat = c := Char.ofNat_toNat c
  by_cases one : c.toNat < 0x80
  · have hb := toNat_toUInt8 (n := c.toNat) (by omega)
    have ascii : c.toNat.toUInt8 < 0x80 := by
      rw [UInt8.lt_iff_toNat_lt, hb]
      exact one
    simp only [encodeChar, one, if_true, List.singleton_append]
    rw [run_start_ascii ascii, hb, back]
  by_cases two : c.toNat < 0x800
  · have read := run_two (Nat.not_lt.1 one) two r
    rw [back] at read
    simpa only [encodeChar, one, two, if_false, if_true, List.cons_append, List.nil_append] using read
  by_cases three : c.toNat < 0x10000
  · have read := run_three (Nat.not_lt.1 two) three whole r
    rw [back] at read
    simpa only [encodeChar, one, two, three, if_false, if_true, List.cons_append, List.nil_append] using read
  · have read := run_four (Nat.not_lt.1 three) high r
    rw [back] at read
    simpa only [encodeChar, one, two, three, if_false, List.cons_append, List.nil_append] using read

/-! ## Whole texts -/

theorem run_encode_append (s : List Char) (r : Bytes) :
    run .start (encode s ++ r) = s.map some ++ run .start r := by
  induction s with
  | nil => rfl
  | cons c s ih =>
      have parts : encode (c :: s) ++ r = encodeChar c ++ (encode s ++ r) := by
        simp [encode]
      rw [parts, run_encodeChar, ih, List.map_cons, List.cons_append]

theorem run_encode (s : List Char) : run .start (encode s) = s.map some := by
  simpa [run] using run_encode_append s []

/-- **A text is what its bytes read back to.** -/
theorem decode?_encode (s : List Char) : decode? (encode s) = some s := by
  rw [decode?, run_encode]
  induction s with
  | nil => rfl
  | cons c s ih => simp [ih]

/-- Nothing of a text has to be replaced. -/
theorem decodeLossy_encode (s : List Char) : decodeLossy (encode s) = s := by
  rw [decodeLossy, run_encode, List.map_map]
  exact List.map_id s

theorem encode_injective {s t : List Char} (h : encode s = encode t) : s = t := by
  have read := decode?_encode s
  rw [h, decode?_encode t] at read
  exact (Option.some.inj read).symm

theorem encodeChar_ne_nil (c : Char) : encodeChar c ≠ [] := by
  unfold encodeChar
  dsimp only
  split
  · exact List.cons_ne_nil _ _
  · split
    · exact List.cons_ne_nil _ _
    · split
      · exact List.cons_ne_nil _ _
      · exact List.cons_ne_nil _ _

/-- An ASCII byte of a character is the whole of it. -/
theorem mem_encodeChar_ascii {b : UInt8} (h : b < 0x80) (c : Char) :
    b ∈ encodeChar c ↔ c = Char.ofNat b.toNat := by
  have hb : b.toNat < 128 := UInt8.lt_iff_toNat_lt.1 h
  obtain ⟨high, _⟩ := toNat_bounds c
  have value : c = Char.ofNat b.toNat ↔ b.toNat = c.toNat := by
    constructor
    · rintro rfl
      exact (toNat_ofNat (Or.inl (by omega))).symm
    · intro e
      rw [e, Char.ofNat_toNat]
  have other : ∀ n, 128 ≤ n → n < 256 → b.toNat ≠ n.toUInt8.toNat := by
    intro n low high
    rw [toNat_toUInt8 high]
    omega
  rw [value]
  by_cases one : c.toNat < 0x80
  · have hn := toNat_toUInt8 (n := c.toNat) (by omega)
    simp only [encodeChar, one, if_true, List.mem_singleton, ← UInt8.toNat_inj, hn]
  · -- every byte is at least `0x80`, and so is the code point
    have bytes : b ∉ encodeChar c := by
      unfold encodeChar
      dsimp only
      rw [if_neg one]
      split
      · simp only [List.mem_cons, List.not_mem_nil, or_false, ← UInt8.toNat_inj, not_or]
        exact ⟨other _ (by omega) (by omega), other _ (by omega) (by omega)⟩
      · split
        · simp only [List.mem_cons, List.not_mem_nil, or_false, ← UInt8.toNat_inj, not_or]
          exact ⟨other _ (by omega) (by omega), other _ (by omega) (by omega),
            other _ (by omega) (by omega)⟩
        · simp only [List.mem_cons, List.not_mem_nil, or_false, ← UInt8.toNat_inj, not_or]
          exact ⟨other _ (by omega) (by omega), other _ (by omega) (by omega),
            other _ (by omega) (by omega), other _ (by omega) (by omega)⟩
    constructor
    · intro member
      exact absurd member bytes
    · intro e
      omega

/-- **An ASCII byte of a text is that character of it.** -/
theorem mem_encode_ascii {b : UInt8} (h : b < 0x80) (s : List Char) :
    b ∈ encode s ↔ Char.ofNat b.toNat ∈ s := by
  simp only [encode, List.mem_flatMap, mem_encodeChar_ascii h]
  constructor
  · rintro ⟨c, hc, rfl⟩
    exact hc
  · intro hc
    exact ⟨_, hc, rfl⟩

/-! ## ASCII -/

theorem encode_cons (c : Char) (s : List Char) : encode (c :: s) = encodeChar c ++ encode s := rfl

theorem encodeChar_ascii {c : Char} (h : c.toNat < 0x80) : encodeChar c = [c.toNat.toUInt8] := by
  unfold encodeChar
  exact if_pos h

theorem toNat_ofNat_byte (b : UInt8) : (Char.ofNat b.toNat).toNat = b.toNat := by
  have small := b.toNat_lt
  exact toNat_ofNat (Or.inl (by omega))

/-- **The bytes of an ASCII text are its characters.** -/
theorem encode_ascii {s : List Char} (h : ∀ c ∈ s, c.toNat < 0x80) :
    encode s = s.map fun c => c.toNat.toUInt8 := by
  induction s with
  | nil => rfl
  | cons c s ih =>
      have first : c.toNat < 0x80 := h c List.mem_cons_self
      rw [encode_cons, encodeChar_ascii first, ih fun d hd => h d (List.mem_cons_of_mem _ hd)]
      rfl

/-- **The bytes up to an ASCII byte are those of the characters up to it.** -/
theorem takeWhile_encode_ne {b : UInt8} (ascii : b < 0x80) (s : List Char) :
    (encode s).takeWhile (· ≠ b) = encode (s.takeWhile (· ≠ Char.ofNat b.toNat)) := by
  induction s with
  | nil => rfl
  | cons c s ih =>
      by_cases stop : c = Char.ofNat b.toNat
      · have code : c.toNat = b.toNat := by rw [stop, toNat_ofNat_byte]
        have small : c.toNat < 0x80 := by
          rw [code]
          exact UInt8.lt_iff_toNat_lt.1 ascii
        have single : encodeChar c = [b] := by
          rw [encodeChar_ascii small, code]
          exact congrArg (fun x => [x]) UInt8.ofNat_toNat
        rw [encode_cons, single, List.takeWhile_cons_of_neg (by simp [stop])]
        simp
      · have all : ∀ x ∈ encodeChar c, decide (x ≠ b) = true := by
          intro x member
          rw [decide_eq_true_iff]
          rintro rfl
          exact stop ((mem_encodeChar_ascii ascii c).1 member)
        rw [encode_cons, List.takeWhile_append_of_pos all, ih,
          List.takeWhile_cons_of_pos (by simpa using stop), encode_cons]

/-- The same for what stands from the byte on. -/
theorem dropWhile_encode_ne {b : UInt8} (ascii : b < 0x80) (s : List Char) :
    (encode s).dropWhile (· ≠ b) = encode (s.dropWhile (· ≠ Char.ofNat b.toNat)) := by
  have whole : (encode s).takeWhile (· ≠ b) ++ (encode s).dropWhile (· ≠ b) =
      encode (s.takeWhile (· ≠ Char.ofNat b.toNat)) ++
        encode (s.dropWhile (· ≠ Char.ofNat b.toNat)) := by
    rw [List.takeWhile_append_dropWhile, ← encode_append, List.takeWhile_append_dropWhile]
  rw [takeWhile_encode_ne ascii] at whole
  exact List.append_cancel_left whole

end StaticPreview.Text.Utf8
