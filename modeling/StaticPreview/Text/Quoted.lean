/-
# StaticPreview.Text.Quoted -- text shown between double quotes

Messages that name an arbitrary text quote it so that it stays on one line and
can be told from what surrounds it: quotes and backslashes are escaped, the
common controls have their letters, and every character that has no glyph of its
own or attaches to its neighbour is written by its code point.
-/
import StaticPreview.Text.Quoted.Table

namespace StaticPreview.Text

namespace Quoted

/-- One character as it stands between the quotes. -/
def escape (c : Char) : List Char :=
  if c = '\x00' then ['\\', '0']
  else if c = '\t' then ['\\', 't']
  else if c = '\r' then ['\\', 'r']
  else if c = '\n' then ['\\', 'n']
  else if c = '\\' then ['\\', '\\']
  else if c = '"' then ['\\', '"']
  else if 0x20 ≤ c.toNat ∧ c.toNat < 0x7F then [c]
  else if Range.holds extending c || Range.holds unprintable c then
    ['\\', 'u', '{'] ++ Nat.toDigits 16 c.toNat ++ ['}']
  else [c]

end Quoted

/-- A text between double quotes, every odd character escaped. -/
def quoted (s : String) : String :=
  String.ofList ('"' :: s.toList.flatMap Quoted.escape ++ ['"'])

end StaticPreview.Text
