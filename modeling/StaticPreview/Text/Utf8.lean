/-
# StaticPreview.Text.Utf8 -- text as bytes, and bytes read as text

`encode` writes text in UTF-8.  Reading is a machine that takes one byte at a
time (`step`): between characters it stands at `start`; inside one it knows the
value so far, how many bytes are owed, and the range the next byte must lie in.
A byte that cannot continue the character ends it as one *broken piece* and is
read again from `start`, so a broken piece is always a longest run of bytes that
could have begun a character.

* `decodeLossy` shows every broken piece as one replacement character;
* `decode?` is the text only when no piece is broken.

From `start` an ASCII byte is a character and leaves the machine at `start`, so
no reading reaches across one: `run_append_ascii`.
-/
import StaticPreview.Bytes

namespace StaticPreview.Text.Utf8

/-- The bytes of one character. -/
def encodeChar (c : Char) : Bytes :=
  let n := c.toNat
  if n < 0x80 then [n.toUInt8]
  else if n < 0x800 then [(0xC0 + n / 64).toUInt8, (0x80 + n % 64).toUInt8]
  else if n < 0x10000 then
    [(0xE0 + n / 4096).toUInt8, (0x80 + n / 64 % 64).toUInt8, (0x80 + n % 64).toUInt8]
  else
    [(0xF0 + n / 262144).toUInt8, (0x80 + n / 4096 % 64).toUInt8,
      (0x80 + n / 64 % 64).toUInt8, (0x80 + n % 64).toUInt8]

/-- The bytes of a text. -/
def encode (s : List Char) : Bytes := s.flatMap encodeChar

/-- Where a reader stands between two bytes. -/
inductive State where
  /-- Between characters. -/
  | start
  /-- Inside a character: the value so far, the bytes still owed, and the least
  and greatest byte that may come next. -/
  | inside (value owed : Nat) (low high : UInt8)
  deriving DecidableEq, Repr

/-- What one byte yields: characters, and `none` for a broken piece. -/
abbrev Pieces := List (Option Char)

/-- A byte read between characters. -/
def first (b : UInt8) : State × Pieces :=
  if b < 0x80 then (.start, [some (Char.ofNat b.toNat)])
  else if b < 0xC2 then (.start, [none])
  else if b < 0xE0 then (.inside (b.toNat - 0xC0) 1 0x80 0xBF, [])
  else if b = 0xE0 then (.inside 0 2 0xA0 0xBF, [])
  else if b = 0xED then (.inside 0xD 2 0x80 0x9F, [])
  else if b < 0xF0 then (.inside (b.toNat - 0xE0) 2 0x80 0xBF, [])
  else if b = 0xF0 then (.inside 0 3 0x90 0xBF, [])
  else if b < 0xF4 then (.inside (b.toNat - 0xF0) 3 0x80 0xBF, [])
  else if b = 0xF4 then (.inside 4 3 0x80 0x8F, [])
  else (.start, [none])

/-- One byte: where the reader stands after it and what it yielded. -/
def step : State → UInt8 → State × Pieces
  | .start, b => first b
  | .inside value owed low high, b =>
      if low ≤ b ∧ b ≤ high then
        let value := value * 64 + (b.toNat - 0x80)
        if owed ≤ 1 then (.start, [some (Char.ofNat value)])
        else (.inside value (owed - 1) 0x80 0xBF, [])
      else ((first b).1, none :: (first b).2)

/-- The pieces of a byte string read from a state; a character cut off by the
end is a broken piece. -/
def run : State → Bytes → Pieces
  | .start, [] => []
  | .inside .., [] => [none]
  | q, b :: r => (step q b).2 ++ run (step q b).1 r

/-- The character shown for a broken piece. -/
def replacement : Char := '\uFFFD'

/-- The text of a byte string, with broken pieces replaced. -/
def decodeLossy (s : Bytes) : List Char := (run .start s).map (·.getD replacement)

/-- The text of a byte string that is UTF-8. -/
def decode? (s : Bytes) : Option (List Char) := (run .start s).mapM id

@[simp] theorem encode_nil : encode [] = [] := rfl

@[simp] theorem encode_append (s t : List Char) : encode (s ++ t) = encode s ++ encode t := by
  simp [encode]

theorem run_start_ascii {b : UInt8} (h : b < 0x80) (r : Bytes) :
    run .start (b :: r) = some (Char.ofNat b.toNat) :: run .start r := by
  simp [run, step, first, h]

/-- A character begun wants a byte outside ASCII next. -/
theorem low_of_first {b : UInt8} {v n : Nat} {lo hi : UInt8}
    (h : (first b).1 = .inside v n lo hi) : 0x80 ≤ lo := by
  unfold first at h
  grind

theorem low_of_step {q : State} {b : UInt8} {v n : Nat} {lo hi : UInt8}
    (h : (step q b).1 = .inside v n lo hi) : 0x80 ≤ lo := by
  cases q with
  | start => exact low_of_first h
  | inside =>
      simp only [step] at h
      have := @low_of_first b v n lo hi
      grind

theorem run_cons (q : State) (b : UInt8) (r : Bytes) :
    run q (b :: r) = (step q b).2 ++ run (step q b).1 r := by
  cases q <;> rfl

/-- **No reading reaches across an ASCII byte.** -/
theorem run_append_ascii (q : State) (s : Bytes) {b : UInt8} (h : b < 0x80) (r : Bytes)
    (hq : ∀ v n lo hi, q = .inside v n lo hi → 0x80 ≤ lo) :
    run q (s ++ b :: r) = run q s ++ some (Char.ofNat b.toNat) :: run .start r := by
  induction s generalizing q with
  | nil =>
      cases q with
      | start => simpa [run] using run_start_ascii h r
      | inside v n lo hi =>
          have hlo : 0x80 ≤ lo := hq v n lo hi rfl
          have hlt : ¬ lo ≤ b := by grind
          simp [run, step, hlt, first, h]
  | cons c s ih =>
      rw [List.cons_append, run_cons, run_cons, ih _ fun v n lo hi => low_of_step,
        List.append_assoc]

end StaticPreview.Text.Utf8

namespace StaticPreview.Bytes

open StaticPreview.Text

/-- The UTF-8 bytes of a text. -/
def ofString (s : String) : Bytes := Utf8.encode s.toList

/-- The text of a byte string, broken pieces replaced. -/
def toStringLossy (s : Bytes) : String := String.ofList (Utf8.decodeLossy s)

/-- The text of a byte string that is UTF-8. -/
def toString? (s : Bytes) : Option String := (Utf8.decode? s).map String.ofList

end StaticPreview.Bytes
