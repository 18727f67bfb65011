/-
# StaticPreview.Address -- internet addresses and their text

An address of version 4 is four bytes, one of version 6 eight groups of 16 bits;
a socket address adds a port and, for version 6, a scope.  The text of an address
of version 6 puts `::` for the longest run of at least two zero groups, the first
of several; an address of version 4 inside one of version 6 keeps its dots.
-/
import StaticPreview.Text.JsonString

namespace StaticPreview

open StaticPreview.Text

/-- An internet address. -/
inductive IpAddr where
  | v4 (a b c d : UInt8)
  | v6 (a b c d e f g h : UInt16)
  deriving DecidableEq, Repr

namespace IpAddr

/-- A byte in decimal. -/
def byteText (b : UInt8) : List Char := Decimal.digits b.toNat

/-- Four bytes with dots between them. -/
def dottedText (a b c d : UInt8) : List Char :=
  byteText a ++ '.' :: byteText b ++ '.' :: byteText c ++ '.' :: byteText d

/-- A number in lower-case hexadecimal digits. -/
def hexText (n : Nat) : List Char :=
  if n < 16 then [JsonString.hexDigit n] else hexText (n / 16) ++ [JsonString.hexDigit (n % 16)]
termination_by n

/-- Groups with colons between them. -/
def groupsText : List UInt16 → List Char
  | [] => []
  | [g] => hexText g.toNat
  | g :: gs => hexText g.toNat ++ ':' :: groupsText gs

/-- The start and the length of the longest run of zero groups, given the place of
the first of these groups, the run that reaches up to it, and the longest run
before it. -/
def longestZeros : List UInt16 → Nat → Nat × Nat → Nat × Nat → Nat × Nat
  | [], _, _, longest => longest
  | g :: gs, i, current, longest =>
      if g = 0 then
        let current := if current.2 = 0 then (i, 1) else (current.1, current.2 + 1)
        longestZeros gs (i + 1) current (if longest.2 < current.2 then current else longest)
      else longestZeros gs (i + 1) (0, 0) longest

/-- The text of an address. -/
def text : IpAddr → List Char
  | .v4 a b c d => dottedText a b c d
  | .v6 0 0 0 0 0 0xFFFF g h =>
      [':', ':', 'f', 'f', 'f', 'f', ':'] ++
        dottedText (g >>> 8).toUInt8 g.toUInt8 (h >>> 8).toUInt8 h.toUInt8
  | .v6 a b c d e f g h =>
      let groups := [a, b, c, d, e, f, g, h]
      let (start, length) := longestZeros groups 0 (0, 0) (0, 0)
      if 1 < length then
        groupsText (groups.take start) ++ [':', ':'] ++ groupsText (groups.drop (start + length))
      else groupsText groups

/-- Whether an address stands for all the addresses of the machine. -/
def isUnspecified : IpAddr → Bool
  | .v4 a b c d => a == 0 && b == 0 && c == 0 && d == 0
  | .v6 a b c d e f g h => [a, b, c, d, e, f, g, h].all (· == 0)

/-- Whether an address is of version 4. -/
def isV4 : IpAddr → Bool
  | .v4 .. => true
  | .v6 .. => false

end IpAddr

/-- An address with a port. -/
structure SocketAddr where
  ip : IpAddr
  port : UInt16
  /-- The scope of an address of version 6. -/
  scope : UInt32 := 0
  deriving DecidableEq, Repr

namespace SocketAddr

/-- The text of an address with its port. -/
def text (a : SocketAddr) : List Char :=
  match a.ip with
  | .v4 .. => a.ip.text ++ ':' :: Decimal.digits a.port.toNat
  | .v6 .. =>
      '[' :: a.ip.text ++ (if a.scope = 0 then [] else '%' :: Decimal.digits a.scope.toNat) ++
        ']' :: ':' :: Decimal.digits a.port.toNat

end SocketAddr

end StaticPreview
