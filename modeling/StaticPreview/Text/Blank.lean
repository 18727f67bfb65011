/-
# StaticPreview.Text.Blank -- white space at the ends of a text

`isBlank` is the Unicode property White_Space, which is wider than the ASCII
blanks that the core library knows.
-/
namespace StaticPreview.Text

/-- Whether a character is white space. -/
def isBlank (c : Char) : Bool :=
  let n := c.toNat
  (0x09 ≤ n && n ≤ 0x0D) || n == 0x20 || n == 0x85 || n == 0xA0 || n == 0x1680 ||
    (0x2000 ≤ n && n ≤ 0x200A) || n == 0x2028 || n == 0x2029 || n == 0x202F || n == 0x205F ||
    n == 0x3000

/-- Without the white space at the front. -/
def trimStart (s : List Char) : List Char := s.dropWhile isBlank

/-- Without the white space at the back. -/
def trimEnd (s : List Char) : List Char := (s.reverse.dropWhile isBlank).reverse

/-- Without the white space at both ends. -/
def trim (s : List Char) : List Char := trimEnd (trimStart s)

theorem trimStart_length_le (s : List Char) : (trimStart s).length ≤ s.length := by
  simpa [trimStart] using (@List.dropWhile_sublist _ s isBlank).length_le

end StaticPreview.Text
