/-
# StaticPreview.Bytes -- byte strings

File names, header values and bodies are byte strings, and a byte string need
not be text.  This module names the type, the bytes that have a meaning to the
library, and the ASCII classes of bytes.
-/
namespace StaticPreview

/-- A byte string. -/
abbrev Bytes := List UInt8

namespace Bytes

/-- The ASCII solidus, which separates the components of a path. -/
def slash : UInt8 := 0x2F

/-- The ASCII full stop. -/
def dot : UInt8 := 0x2E

/-- The lower case of an ASCII letter, and every other byte as it is. -/
def lowerAscii (b : UInt8) : UInt8 := if 0x41 ≤ b ∧ b ≤ 0x5A then b + 0x20 else b

/-- Whether a byte is an ASCII digit. -/
def isDigit (b : UInt8) : Bool := 0x30 ≤ b && b ≤ 0x39

/-- Whether a byte is an ASCII letter. -/
def isAlpha (b : UInt8) : Bool := (0x41 ≤ b && b ≤ 0x5A) || (0x61 ≤ b && b ≤ 0x7A)

/-- The value of a hexadecimal digit of either case. -/
def hexValue? (b : UInt8) : Option UInt8 :=
  if 0x30 ≤ b ∧ b ≤ 0x39 then some (b - 0x30)
  else if 0x61 ≤ b ∧ b ≤ 0x66 then some (b - 0x61 + 10)
  else if 0x41 ≤ b ∧ b ≤ 0x46 then some (b - 0x41 + 10)
  else none

/-- The upper-case hexadecimal digit of a value below 16. -/
def hexDigit (v : UInt8) : UInt8 := if v < 10 then 0x30 + v else 0x41 + (v - 10)

end Bytes

end StaticPreview
