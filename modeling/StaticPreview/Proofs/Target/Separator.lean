/-
# StaticPreview.Proofs.Target.Separator -- which characters keep what is read apart

Reading looks ahead twice: for the two digits of an escape, and for the bytes that
continue a character.  A character that is no part of an escape stops the first look
(`unescape_append_encodeChar`).  The second one is stopped by any byte that does not
continue a character, be it ASCII or not, for nothing else is waited for
(`State.Awaits`, kept by `awaits_step`; `run_append_cons`).

So what stands before such a character and what stands behind it are read on their own,
whatever escapes are cut off or half a character long on either side of it.  Of any
other character this is false: `decode_apart`.
-/
import StaticPreview.Proofs.Target.Percent

namespace StaticPreview

open StaticPreview.Text

namespace Text.Utf8

/-! ## Characters cut off -/

/-- Nothing is waited for but a byte that continues a character. -/
def State.Awaits : State → Prop
  | .start => True
  | .inside _ _ low high => 0x80 ≤ low.toNat ∧ high.toNat < 0xC0

theorem awaits_first (b : UInt8) : (first b).1.Awaits := by
  rw [first_toNat]
  repeat' split
  all_goals simp [State.Awaits]

theorem awaits_step (q : State) (b : UInt8) : (step q b).1.Awaits := by
  cases q with
  | start => exact awaits_first b
  | inside value owed low high =>
      rw [step]
      split
      · dsimp only
        split
        · trivial
        · simp [State.Awaits]
      · exact awaits_first b

/-- **A byte that continues no character begins anew**, whatever was begun before it. -/
theorem run_append_cons {q : State} (awaits : q.Awaits) (s : Bytes) {b : UInt8}
    (fresh : b.toNat < 0x80 ∨ 0xC0 ≤ b.toNat) (r : Bytes) :
    run q (s ++ b :: r) = run q s ++ run .start (b :: r) := by
  induction s generalizing q with
  | nil =>
      cases q with
      | start => rfl
      | inside value owed low high =>
          have other : ¬ (low ≤ b ∧ b ≤ high) := by
            rw [UInt8.le_iff_toNat_le, UInt8.le_iff_toNat_le]
            simp only [State.Awaits] at awaits
            omega
          rw [List.nil_append, run_cons, run_cons]
          simp only [step, if_neg other]
          rfl
  | cons c s ih =>
      rw [List.cons_append, run_cons, run_cons, ih (awaits_step q c), List.append_assoc]

/-- A character begins with a byte that continues none. -/
theorem exists_encodeChar_eq_cons (c : Char) :
    ∃ b rest, encodeChar c = b :: rest ∧ (b.toNat < 0x80 ∨ 0xC0 ≤ b.toNat) := by
  obtain ⟨high, -⟩ := toNat_bounds c
  unfold encodeChar
  dsimp only
  split
  · refine ⟨_, _, rfl, Or.inl ?_⟩
    rw [toNat_toUInt8 (by omega)]
    assumption
  · split
    · refine ⟨_, _, rfl, Or.inr ?_⟩
      rw [toNat_toUInt8 (by omega)]
      omega
    · split
      · refine ⟨_, _, rfl, Or.inr ?_⟩
        rw [toNat_toUInt8 (by omega)]
        omega
      · refine ⟨_, _, rfl, Or.inr ?_⟩
        rw [toNat_toUInt8 (by omega)]
        omega

/-- **What stands around a character is read as if it stood alone.** -/
theorem decodeLossy_append_encodeChar (s : Bytes) (c : Char) (r : Bytes) :
    decodeLossy (s ++ (encodeChar c ++ r)) = decodeLossy s ++ c :: decodeLossy r := by
  obtain ⟨b, rest, written, fresh⟩ := exists_encodeChar_eq_cons c
  have whole : run .start (s ++ (encodeChar c ++ r)) =
      run .start s ++ some c :: run .start r := by
    rw [← run_encodeChar c r, written, List.cons_append]
    exact run_append_cons (q := .start) trivial s fresh _
  rw [decodeLossy, whole, List.map_append]
  rfl

end Text.Utf8

namespace Target.Percent

/-! ## Escapes cut off -/

/-- Whether a character can be part of an escape. -/
def isEscapeChar (c : Char) : Bool := "%0123456789abcdefABCDEF".toList.contains c

theorem unescape_sign_cons {h : UInt8} (noDigit : Bytes.hexValue? h = none) (r : Bytes) :
    unescape (sign :: h :: r) = sign :: unescape (h :: r) := by
  cases r with
  | nil => rfl
  | cons l r => rw [unescape, if_pos rfl, noDigit]

theorem unescape_sign_cons_cons {h l : UInt8} (noDigit : Bytes.hexValue? l = none) (r : Bytes) :
    unescape (sign :: h :: l :: r) = sign :: unescape (h :: l :: r) := by
  rw [unescape, if_pos rfl, noDigit]
  cases Bytes.hexValue? h <;> rfl

/-- **No escape reaches across a byte that can be no part of one.** -/
theorem unescape_append_cons {b : UInt8} (noDigit : Bytes.hexValue? b = none) (other : b ≠ sign)
    (s r : Bytes) : unescape (s ++ b :: r) = unescape s ++ b :: unescape r := by
  fun_induction unescape s with
  | case1 h l s x y low high ih =>
      rw [List.cons_append, List.cons_append, List.cons_append, unescape_sign high low, ih,
        List.cons_append]
  | case2 h l s noEscape ih =>
      have kept : unescape (sign :: h :: l :: (s ++ b :: r)) =
          sign :: unescape (h :: l :: (s ++ b :: r)) := by
        cases high : Bytes.hexValue? h with
        | none => exact unescape_sign_cons high _
        | some x =>
            cases low : Bytes.hexValue? l with
            | none => exact unescape_sign_cons_cons low _
            | some y => exact absurd low (noEscape x y high)
      rw [List.cons_append, List.cons_append, List.cons_append, kept, List.cons_append]
      exact congrArg _ ih
  | case3 c h l s plain ih =>
      rw [List.cons_append, unescape_cons plain, List.cons_append]
      exact congrArg _ ih
  | case4 c s short ih =>
      -- at most one byte stands between `c` and `b`, so `c` begins no escape
      have kept : unescape (c :: (s ++ b :: r)) = c :: unescape (s ++ b :: r) := by
        by_cases escaping : c = sign
        · subst escaping
          match s, short with
          | [], _ => exact unescape_sign_cons noDigit r
          | [h], _ => exact unescape_sign_cons_cons noDigit r
          | h :: l :: s, short => exact absurd rfl (short h l s)
        · exact unescape_cons escaping _
      rw [List.cons_append, kept, ih, List.cons_append]
  | case5 => exact unescape_cons other r

/-- What holds no percent sign is read byte by byte. -/
theorem unescape_append_of_not_mem {s : Bytes} (noSign : sign ∉ s) (r : Bytes) :
    unescape (s ++ r) = s ++ unescape r := by
  induction s with
  | nil => rfl
  | cons b s ih =>
      rw [List.mem_cons, not_or] at noSign
      rw [List.cons_append, unescape_cons (Ne.symm noSign.1), ih noSign.2, List.cons_append]

/-- The bytes of a character that is no part of an escape are no part of one. -/
theorem not_escape_of_mem_encodeChar {c : Char} (other : isEscapeChar c = false) {b : UInt8}
    (member : b ∈ Utf8.encodeChar c) : Bytes.hexValue? b = none ∧ b ≠ sign := by
  have ascii : ∀ b : UInt8, isEscapeChar (Char.ofNat b.toNat) = false →
      Bytes.hexValue? b = none ∧ b ≠ sign := forall_byte (by decide +kernel)
  have beyond : ∀ b : UInt8, ¬ b < 0x80 → Bytes.hexValue? b = none ∧ b ≠ sign :=
    forall_byte (by decide +kernel)
  by_cases low : b < 0x80
  · rw [Utf8.mem_encodeChar_ascii low] at member
    rw [member] at other
    exact ascii b other
  · exact beyond b low

theorem unescape_append_encodeChar {c : Char} (other : isEscapeChar c = false) (s r : Bytes) :
    unescape (s ++ (Utf8.encodeChar c ++ r)) = unescape s ++ (Utf8.encodeChar c ++ unescape r) := by
  obtain ⟨b, rest, written⟩ := List.exists_cons_of_ne_nil (Utf8.encodeChar_ne_nil c)
  have plain (x : UInt8) (member : x ∈ b :: rest) := by
    rw [← written] at member
    exact not_escape_of_mem_encodeChar other member
  have noSign : sign ∉ rest := fun member => (plain sign (List.mem_cons_of_mem _ member)).2 rfl
  obtain ⟨noDigit, noPercent⟩ := plain b List.mem_cons_self
  rw [written, List.cons_append, unescape_append_cons noDigit noPercent,
    unescape_append_of_not_mem noSign, List.cons_append]

/-! ## Both together -/

/-- **Reading keeps apart what stands on the two sides of a character** when that is no part
of an escape. -/
theorem decode_append_of_not_isEscapeChar {c : Char} (other : isEscapeChar c = false)
    (s t : List Char) : decode (s ++ c :: t) = decode s ++ c :: decode t := by
  rw [decode, Utf8.encode_append, Utf8.encode_cons, unescape_append_encodeChar other,
    Utf8.decodeLossy_append_encodeChar]
  rfl

/-- The percent sign and the digits are read differently in an escape. -/
theorem isEscapeChar_eq_false_of_apart {c : Char}
    (apart : ∀ s t, decode (s ++ c :: t) = decode s ++ c :: decode t) :
    isEscapeChar c = false := by
  -- behind a percent sign and before digits, none of them is read as itself
  have shorter : ("%0123456789abcdefABCDEF".toList.all fun c =>
      (decode ("%".toList ++ c :: "41".toList)).length == 2) = true := by
    decide +kernel
  have kept (c : Char) : (decode "%".toList ++ c :: decode "41".toList).length = 4 := rfl
  rw [isEscapeChar, ← Bool.not_eq_true, List.contains_iff_mem]
  intro member
  have lengths := congrArg List.length (apart "%".toList "41".toList)
  rw [eq_of_beq (List.all_eq_true.1 shorter c member), kept] at lengths
  omega

/-- **A solidus keeps what is read apart**, and so does every character that is no part of an
escape; no other one does. -/
theorem decode_apart :
    (∀ s t, decode (s ++ '/' :: t) = decode s ++ '/' :: decode t) ∧
      ∀ c, (∀ s t, decode (s ++ c :: t) = decode s ++ c :: decode t) ↔ isEscapeChar c = false := by
  refine ⟨decode_append_of_not_isEscapeChar (by decide), fun c => ⟨isEscapeChar_eq_false_of_apart, ?_⟩⟩
  exact decode_append_of_not_isEscapeChar

/-- Half an escape and half a character in front, the rest of each behind. -/
example : decode "%C3%4/1%A9".toList = "\uFFFD%4/1\uFFFD".toList := by decide +kernel

end Target.Percent

end StaticPreview
