/-
# StaticPreview.Target.Percent -- percent escapes

An escape is a percent sign and two hexadecimal digits, and stands for one byte.
Reading has two stages that are kept apart: `unescape` turns escapes into bytes,
and the bytes are then read as UTF-8 with broken pieces replaced.  A percent sign
that begins no escape stands for itself, and scanning goes on at the very next
byte.

Writing (`encodePath`) escapes every byte that a path may not hold as it is; the
solidus is kept, so a written path has the components of what was written.
-/
import StaticPreview.Text.Utf8

namespace StaticPreview.Target.Percent

open StaticPreview.Text

/-- The percent sign. -/
def sign : UInt8 := 0x25

/-- Escapes turned into the bytes they stand for. -/
def unescape : Bytes → Bytes
  | b :: h :: l :: r =>
      if b = sign then
        match Bytes.hexValue? h, Bytes.hexValue? l with
        | some x, some y => (x * 16 + y) :: unescape r
        | _, _ => b :: unescape (h :: l :: r)
      else b :: unescape (h :: l :: r)
  | b :: r => b :: unescape r
  | [] => []

/-- The text that a path with escapes stands for. -/
def decode (s : List Char) : List Char := Utf8.decodeLossy (unescape (Utf8.encode s))

/-- Whether a byte stands for itself in a written path. -/
def isPlain (b : UInt8) : Bool :=
  Bytes.isDigit b || Bytes.isAlpha b || b == 0x2D || b == 0x2E || b == 0x5F || b == 0x7E ||
    b == 0x2F

/-- One byte of a written path. -/
def encodeByte (b : UInt8) : List Char :=
  if isPlain b then [Char.ofNat b.toNat]
  else ['%', Char.ofNat (Bytes.hexDigit (b / 16)).toNat, Char.ofNat (Bytes.hexDigit (b % 16)).toNat]

/-- A text written so that it can stand in the path of a link. -/
def encodePath (s : List Char) : List Char := (Utf8.encode s).flatMap encodeByte

@[simp] theorem encodePath_append (s t : List Char) :
    encodePath (s ++ t) = encodePath s ++ encodePath t := by
  simp [encodePath]

end StaticPreview.Target.Percent
