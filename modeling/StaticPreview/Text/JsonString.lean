/-
# StaticPreview.Text.JsonString -- strings of JSON texts

Between the quotes of a JSON string, a quote, a backslash and the controls are
escaped; everything else stands for itself.  The controls that have a letter use
it, the others their code point in four hexadecimal digits.
-/
import StaticPreview.Text.Decimal

namespace StaticPreview.Text.JsonString

/-- The digit of a value below sixteen. -/
def hexDigit (d : Nat) : Char := if d < 10 then Char.ofNat (0x30 + d) else Char.ofNat (0x57 + d)

/-- One character between the quotes. -/
def escape (c : Char) : List Char :=
  if c = '"' then ['\\', '"']
  else if c = '\\' then ['\\', '\\']
  else if c.toNat < 0x20 then
    if c.toNat = 0x08 then ['\\', 'b']
    else if c.toNat = 0x09 then ['\\', 't']
    else if c.toNat = 0x0A then ['\\', 'n']
    else if c.toNat = 0x0C then ['\\', 'f']
    else if c.toNat = 0x0D then ['\\', 'r']
    else ['\\', 'u', '0', '0', hexDigit (c.toNat / 16), hexDigit (c.toNat % 16)]
  else [c]

/-- A text as a JSON string, quotes included. -/
def write (s : List Char) : List Char := '"' :: s.flatMap escape ++ ['"']

end StaticPreview.Text.JsonString
