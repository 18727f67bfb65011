/-
# StaticPreview.Proofs.Target.Escapes -- all ways of writing a path, and the one way of reading it

A byte may be written as itself or as an escape with digits of either case; only the
percent sign has no choice (`Spells`).  Whatever way is taken, the same bytes are read
(`unescape_of_spells`).  Writing a path takes one such way (`spells_encodePath`): few
characters stand for themselves, everything else is an escape with upper-case digits
(`exists_pieces_encodePath`), and the solidi stay between what they were between
(`split_encodePath`).

Reading cuts a byte string from the left into escapes and single bytes: a byte is taken
alone exactly when no escape begins with it (`Tokenises`).  There is one way to do this
(`tokenises_unique`), and what is read is the value of each token
(`exists_tokenises`).
-/
import Mathlib.Logic.ExistsUnique
import StaticPreview.Proofs.Pieces
import StaticPreview.Proofs.Target.Slash

namespace StaticPreview.Target.Percent

open StaticPreview.Text

/-! ## Ways of writing -/

/-- A byte string written with some of its bytes as escapes, among them every percent
sign. -/
inductive Spells : Bytes → Bytes → Prop
  | nil : Spells [] []
  | literal {b : UInt8} {written meant : Bytes} (other : b ≠ sign) (rest : Spells written meant) :
      Spells (b :: written) (b :: meant)
  | escape {h l x y : UInt8} {written meant : Bytes} (high : Bytes.hexValue? h = some x)
      (low : Bytes.hexValue? l = some y) (rest : Spells written meant) :
      Spells (sign :: h :: l :: written) ((x * 16 + y) :: meant)

theorem unescape_of_spells {written meant : Bytes} (spells : Spells written meant) :
    unescape written = meant := by
  induction spells with
  | nil => rfl
  | literal other rest ih => rw [unescape_cons other, ih]
  | escape high low rest ih => rw [unescape_sign high low, ih]

/-- **However a text is written, it is read as the text.** -/
theorem decode_of_spells {s written : List Char}
    (spells : Spells (Utf8.encode written) (Utf8.encode s)) : decode written = s := by
  rw [decode, unescape_of_spells spells, Utf8.decodeLossy_encode]

theorem spells_encodeByte (b : UInt8) {written meant : Bytes} (rest : Spells written meant) :
    Spells (Utf8.encode (encodeByte b) ++ written) (b :: meant) := by
  rw [encode_encodeByte]
  by_cases plain : isPlain b = true
  · have other : b ≠ sign := by
      rintro rfl
      exact absurd plain (by decide)
    rw [if_pos plain]
    exact .literal other rest
  · obtain ⟨high, low, whole⟩ := hexValue?_hexDigit b
    have escaped := Spells.escape high low rest
    rw [whole] at escaped
    rw [if_neg plain]
    exact escaped

/-- Writing a path is one way of writing it. -/
theorem spells_encodePath (s : List Char) : Spells (Utf8.encode (encodePath s)) (Utf8.encode s) := by
  unfold encodePath
  induction Utf8.encode s with
  | nil => exact .nil
  | cons b bytes ih =>
      rw [List.flatMap_cons, Utf8.encode_append]
      exact spells_encodeByte b ih

/-! ## What is written -/

/-- Whether a character stands for itself in a written path. -/
def isUnreserved (c : Char) : Bool := c.isAlphanum || c ∈ ['-', '.', '_', '~', '/']

/-- Whether a character is a hexadecimal digit without lower case. -/
def isUpperHex (c : Char) : Bool := ('0' ≤ c && c ≤ '9') || ('A' ≤ c && c ≤ 'F')

/-- Whether a text is what one byte is written as. -/
def isPiece : List Char → Bool
  | [c] => isUnreserved c
  | ['%', h, l] => isUpperHex h && isUpperHex l
  | _ => false

theorem isPiece_encodeByte (b : UInt8) : isPiece (encodeByte b) = true := by
  revert b
  exact forall_byte (by decide +kernel)

/-- A written path is made of characters that stand for themselves and of escapes with
upper-case digits. -/
theorem exists_pieces_encodePath (s : List Char) :
    ∃ pieces : List (List Char), encodePath s = pieces.flatten ∧
      ∀ piece ∈ pieces, isPiece piece = true := by
  refine ⟨(Utf8.encode s).map encodeByte, List.flatMap_def, ?_⟩
  intro piece member
  obtain ⟨b, -, rfl⟩ := List.mem_map.1 member
  exact isPiece_encodeByte b

theorem encodePath_slash_cons (s : List Char) : encodePath ('/' :: s) = '/' :: encodePath s := by
  have slash : encodePath ['/'] = ['/'] := by decide +kernel
  have parts := encodePath_append ['/'] s
  rw [slash] at parts
  exact parts

theorem encodePath_join (pieces : List (List Char)) :
    encodePath (Pieces.join '/' pieces) = Pieces.join '/' (pieces.map encodePath) := by
  induction pieces with
  | nil => rfl
  | cons piece pieces ih =>
      cases pieces with
      | nil => rfl
      | cons next pieces =>
          rw [Pieces.join, encodePath_append, encodePath_slash_cons, ih]
          · rfl
          · simp

/-- **The solidi of a path stay where they are.** -/
theorem split_encodePath (s : List Char) :
    Pieces.split '/' (encodePath s) = (Pieces.split '/' s).map encodePath := by
  have joined := encodePath_join (Pieces.split '/' s)
  rw [Pieces.join_split] at joined
  rw [joined]
  apply Pieces.split_join
  · simpa using Pieces.split_ne_nil '/' s
  · intro written member slash
    obtain ⟨piece, inside, rfl⟩ := List.mem_map.1 member
    exact Pieces.not_mem_of_mem_split inside (slash_mem_encodePath slash)

theorem encodePath_injective : Function.Injective encodePath := by
  intro s t same
  rw [← decode_encodePath s, same, decode_encodePath]

/-! ## The way of reading -/

/-- A part of a byte string as it is read: an escape, by its digits, or a single byte. -/
inductive Token where
  | escape (high low : UInt8)
  | single (b : UInt8)
  deriving DecidableEq, Repr

/-- The byte that a token stands for. -/
def Token.value : Token → UInt8
  | .escape high low =>
      (Bytes.hexValue? high).getD 0 * 16 + (Bytes.hexValue? low).getD 0
  | .single b => b

/-- Whether a byte string begins with an escape. -/
def beginsEscape : Bytes → Bool
  | b :: h :: l :: _ => b == sign && (Bytes.hexValue? h).isSome && (Bytes.hexValue? l).isSome
  | _ => false

/-- The tokens of a byte string, taken from the left: an escape wherever one begins, and
else the next byte alone. -/
inductive Tokenises : List Token → Bytes → Prop
  | nil : Tokenises [] []
  | escape {h l : UInt8} {ts : List Token} {r : Bytes}
      (begins : beginsEscape (sign :: h :: l :: r) = true) (rest : Tokenises ts r) :
      Tokenises (.escape h l :: ts) (sign :: h :: l :: r)
  | single {b : UInt8} {ts : List Token} {r : Bytes} (alone : beginsEscape (b :: r) = false)
      (rest : Tokenises ts r) : Tokenises (.single b :: ts) (b :: r)

/-- **A byte string has one list of tokens.** -/
theorem tokenises_unique {ts us : List Token} {s : Bytes} (first : Tokenises ts s)
    (second : Tokenises us s) : ts = us := by
  induction first generalizing us with
  | nil =>
      cases second with
      | nil => rfl
  | escape begins rest ih =>
      cases second with
      | escape _ other => rw [ih other]
      | single alone _ => exact absurd begins (by simp [alone])
  | single alone rest ih =>
      cases second with
      | escape begins _ => exact absurd begins (by simp [alone])
      | single _ other => rw [ih other]

/-- Every byte string has tokens, and is read as their values. -/
theorem exists_tokenises (s : Bytes) : ∃ ts, Tokenises ts s ∧ unescape s = ts.map Token.value := by
  fun_induction unescape s with
  | case1 h l r x y low high ih =>
      obtain ⟨ts, rest, values⟩ := ih
      refine ⟨.escape h l :: ts, .escape (by simp [beginsEscape, low, high]) rest, ?_⟩
      rw [values, List.map_cons, Token.value, high, low]
      rfl
  | case2 h l r noEscape ih =>
      obtain ⟨ts, rest, values⟩ := ih
      refine ⟨.single sign :: ts, .single ?_ rest, by rw [values]; rfl⟩
      cases high : Bytes.hexValue? h with
      | none => simp [beginsEscape, high]
      | some x =>
          cases low : Bytes.hexValue? l with
          | none => simp [beginsEscape, low]
          | some y => exact absurd low (noEscape x y high)
  | case3 b h l r other ih =>
      obtain ⟨ts, rest, values⟩ := ih
      exact ⟨.single b :: ts, .single (by simp [beginsEscape, other]) rest, by rw [values]; rfl⟩
  | case4 b r short ih =>
      obtain ⟨ts, rest, values⟩ := ih
      refine ⟨.single b :: ts, .single ?_ rest, by rw [values]; rfl⟩
      rw [beginsEscape]
      intro c h l r' same
      exact short h l r' (List.cons.inj same).2
  | case5 => exact ⟨[], .nil, rfl⟩

theorem unescape_of_tokenises {ts : List Token} {s : Bytes} (tokens : Tokenises ts s) :
    unescape s = ts.map Token.value := by
  obtain ⟨us, others, values⟩ := exists_tokenises s
  rw [values, tokenises_unique tokens others]

/-! ## Both together -/

/-- **Percent coding.**  Every way of writing a text is read as the text; a path is written in
one of these ways, with few characters standing for themselves and with the solidi in their
places, so that no two are written alike; and any text at all is read through its one list
of tokens. -/
theorem coding :
    (∀ s written, Spells (Utf8.encode written) (Utf8.encode s) → decode written = s) ∧
      (∀ s, Spells (Utf8.encode (encodePath s)) (Utf8.encode s) ∧
        (∃ pieces : List (List Char), encodePath s = pieces.flatten ∧
          ∀ piece ∈ pieces, isPiece piece = true) ∧
        Pieces.split '/' (encodePath s) = (Pieces.split '/' s).map encodePath) ∧
      Function.Injective encodePath ∧
      (∀ s, ∃! ts, Tokenises ts (Utf8.encode s)) ∧
      ∀ s ts, Tokenises ts (Utf8.encode s) → decode s = Utf8.decodeLossy (ts.map Token.value) := by
  refine ⟨fun s written => decode_of_spells, fun s => ?_, encodePath_injective, fun s => ?_,
    fun s ts tokens => ?_⟩
  · exact ⟨spells_encodePath s, exists_pieces_encodePath s, split_encodePath s⟩
  · obtain ⟨ts, tokens, -⟩ := exists_tokenises (Utf8.encode s)
    exact ⟨ts, tokens, fun us others => tokenises_unique others tokens⟩
  · rw [decode, unescape_of_tokenises tokens]

/-- Both halves of a character and a percent sign as escapes beside a character as it is, and
percent signs that begin nothing. -/
theorem coding_mixed :
    decode "é%2f%c3%A9%254".toList = "é/é%4".toList ∧
      decode "%%41%4%41%".toList = "%A%4A%".toList := by
  obtain ⟨ways, -, -, -, tokens⟩ := coding
  constructor
  · have written : Utf8.encode "é%2f%c3%A9%254".toList =
        [0xC3, 0xA9, 0x25, 0x32, 0x66, 0x25, 0x63, 0x33, 0x25, 0x41, 0x39, 0x25, 0x32, 0x35, 0x34] := by
      decide +kernel
    have meant : Utf8.encode "é/é%4".toList = [0xC3, 0xA9, 0x2F, 0xC3, 0xA9, 0x25, 0x34] := by
      decide +kernel
    apply ways
    rw [written, meant]
    exact .literal (by decide) (.literal (by decide) (.escape (x := 2) (y := 15) rfl rfl
      (.escape (x := 12) (y := 3) rfl rfl (.escape (x := 10) (y := 9) rfl rfl
        (.escape (x := 2) (y := 5) rfl rfl (.literal (by decide) .nil))))))
  · have written : Utf8.encode "%%41%4%41%".toList =
        [0x25, 0x25, 0x34, 0x31, 0x25, 0x34, 0x25, 0x34, 0x31, 0x25] := by
      decide +kernel
    have parts : Tokenises [.single 0x25, .escape 0x34 0x31, .single 0x25, .single 0x34,
        .escape 0x34 0x31, .single 0x25] (Utf8.encode "%%41%4%41%".toList) := by
      rw [written]
      exact .single rfl (.escape rfl (.single rfl (.single rfl (.escape rfl (.single rfl .nil)))))
    rw [tokens _ _ parts]
    decide +kernel

end StaticPreview.Target.Percent
