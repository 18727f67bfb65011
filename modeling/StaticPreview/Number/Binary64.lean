/-
# StaticPreview.Number.Binary64 -- floating point numbers in exact arithmetic

A double is a whole number times a power of two.  Everything here is arithmetic
of whole numbers, so that it can be evaluated and reasoned about:

* `ofRatio` is the double nearest to a quotient, ties to the even mantissa;
* `text` is the shortest decimal text that reads back as the number, always
  positional; among the shortest, the nearest;
* `fixedText` rounds the exact value to a number of places, ties to even;
* `rounded` is the nearest whole number, halves away from zero.
-/
import StaticPreview.Text.Decimal

namespace StaticPreview.Number

/-- A double. -/
inductive Binary64 where
  /-- `mantissa * 2 ^ exponent`, negated or not. -/
  | finite (negative : Bool) (mantissa : Nat) (exponent : Int)
  | infinite (negative : Bool)
  | nan
  deriving DecidableEq, Repr

namespace Binary64

/-- The least exponent. -/
def minExponent : Int := -1074

/-- The greatest exponent of a mantissa of 53 bits. -/
def maxExponent : Int := 971

/-- The least mantissa of a double whose exponent is not the least one. -/
def leadingBit : Nat := 1 <<< 52

/-- The greatest mantissa, which has 53 bits. -/
def maxMantissa : Nat := 1 <<< 53 - 1

/-- A power of ten. -/
def tenTo (k : Nat) : Nat := Nat.pow 10 k

/-- A quotient rounded to a whole number, halves to the even one. -/
def divRound (num den : Nat) : Nat :=
  let q := num / den
  let r := num % den
  if 2 * r < den then q
  else if den < 2 * r then q + 1
  else if q % 2 = 0 then q else q + 1

/-- The quotient `num / den` divided by `2 ^ e`, as a numerator and a denominator. -/
def scaled (num den : Nat) (e : Int) : Nat × Nat :=
  if 0 ≤ e then (num, den <<< e.toNat) else (num <<< (-e).toNat, den)

/-- The double nearest to `num / den`, for a positive `den`. -/
def ofRatio (negative : Bool) (num den : Nat) : Binary64 :=
  if num = 0 then .finite negative 0 minExponent
  else
    let guess : Int := (num.log2 : Int) - den.log2 - 52
    let (n, d) := scaled num den guess
    let e := max minExponent (if n < d <<< 52 then guess - 1 else guess)
    let (n, d) := scaled num den e
    let m := divRound n d
    let (m, e) := if m = maxMantissa + 1 then (leadingBit, e + 1) else (m, e)
    if maxExponent < e then .infinite negative else .finite negative m e

/-- The double nearest to a whole number. -/
def ofNat (n : Nat) : Binary64 := ofRatio false n 1

/-- The double nearest to `mantissa * 10 ^ exponent`. -/
def ofDecimal (negative : Bool) (mantissa : Nat) (exponent : Int) : Binary64 :=
  let magnitude : Int := exponent + (Text.Decimal.digits mantissa).length
  if mantissa = 0 ∨ magnitude < -400 then .finite negative 0 minExponent
  else if 400 < magnitude then .infinite negative
  else if 0 ≤ exponent then ofRatio negative (mantissa * tenTo exponent.toNat) 1
  else ofRatio negative mantissa (tenTo (-exponent).toNat)

/-- The double nearest to the quotient of a double by a positive number. -/
def divNat (x : Binary64) (n : Nat) : Binary64 :=
  match x with
  | .finite negative m e =>
      if 0 ≤ e then ofRatio negative (m <<< e.toNat) n
      else ofRatio negative m (n <<< (-e).toNat)
  | x => x

/-- The double nearest to the product of two doubles. -/
def mul (x y : Binary64) : Binary64 :=
  match x, y with
  | .nan, _ => .nan
  | _, .nan => .nan
  | .finite s m e, .finite t n f =>
      let k := e + f
      if 0 ≤ k then ofRatio (s != t) ((m * n) <<< k.toNat) 1
      else ofRatio (s != t) (m * n) (1 <<< (-k).toNat)
  | .infinite s, .finite t n _ => if n = 0 then .nan else .infinite (s != t)
  | .finite s m _, .infinite t => if m = 0 then .nan else .infinite (s != t)
  | .infinite s, .infinite t => .infinite (s != t)

/-- The double nearest to the quotient of a double by a finite one that is not zero. -/
def div (x y : Binary64) : Binary64 :=
  match x, y with
  | .finite s m e, .finite t n f =>
      let k := e - f
      if 0 ≤ k then ofRatio (s != t) (m <<< k.toNat) n
      else ofRatio (s != t) m (n <<< (-k).toNat)
  | .infinite s, .finite t _ _ => .infinite (s != t)
  | _, _ => .nan

/-- A double with its sign turned. -/
def neg : Binary64 → Binary64
  | .finite negative m e => .finite (!negative) m e
  | .infinite negative => .infinite (!negative)
  | .nan => .nan

/-- Whether a double is an infinity. -/
def isInfinite : Binary64 → Bool
  | .infinite _ => true
  | _ => false

/-- Whether a double is a zero of either sign. -/
def isZero : Binary64 → Bool
  | .finite _ m _ => m == 0
  | _ => false

/-- The nearest whole number, halves away from zero; `none` for what is not finite. -/
def rounded? : Binary64 → Option Int
  | .finite negative m e =>
      let size : Nat :=
        if 0 ≤ e then m <<< e.toNat else (2 * m + 1 <<< (-e).toNat) / (2 <<< (-e).toNat)
      some (if negative then -size else size)
  | _ => none

/-- The nearest whole number that lies between two bounds; nothing is near to a
number that is none, which counts as zero. -/
def clamped (low high : Int) (x : Binary64) : Int :=
  match x with
  | .nan => 0
  | .infinite negative => if negative then low else high
  | .finite .. => max low (min high (x.rounded?.getD 0))

/-! ## Decimal text -/

/-- A finite double's value as a quotient. -/
def ratio (m : Nat) (e : Int) : Nat × Nat :=
  if 0 ≤ e then (m <<< e.toNat, 1) else (m, 1 <<< (-e).toNat)

/-- The exact value rounded to `places` decimal places, halves to even. -/
def fixedText (places : Nat) : Binary64 → List Char
  | .finite negative m e =>
      let (n, d) := ratio m e
      let all := Text.Decimal.padded (places + 1) (divRound (n * tenTo places) d)
      let whole := all.take (all.length - places)
      let part := all.drop (all.length - places)
      (if negative then ['-'] else []) ++ whole ++ (if places = 0 then [] else '.' :: part)
  | .infinite negative => if negative then ['-', 'i', 'n', 'f'] else ['i', 'n', 'f']
  | .nan => ['N', 'a', 'N']

/-- The multiple of `10 ^ k` that stands for a double in the grid of those
multiples, given four times its value and the ends of the interval that rounds
to it (as numerators over one denominator), or `none` when no multiple lies in
the interval.  The nearest multiple wins, the upper one of two equally near. -/
def onGrid? (low value high den : Nat) (closed : Bool) (k : Int) : Option Nat :=
  let (unit, den) : Nat × Nat :=
    if 0 ≤ k then (den * tenTo k.toNat, 1) else (den, tenTo (-k).toNat)
  let below := value * den / unit
  let inside (q : Nat) : Bool :=
    if closed then low * den ≤ q * unit && q * unit ≤ high * den
    else low * den < q * unit && q * unit < high * den
  match inside below, inside (below + 1) with
  | true, true =>
      if value * den - below * unit < (below + 1) * unit - value * den then some below
      else some (below + 1)
  | true, false => some below
  | false, true => some (below + 1)
  | false, false => none

/-- The shortest digits of a positive double and the power of ten they are to be
multiplied by: the coarsest of the grids from `k` downwards that has a point for
it. -/
def shortestFrom (low value high den : Nat) (closed : Bool) : Nat → Int → Nat × Int
  | 0, k => (value / den, k)
  | fuel + 1, k =>
      match onGrid? low value high den closed k with
      | some q => (q, k)
      | none => shortestFrom low value high den closed fuel (k - 1)

/-- The shortest digits of a positive finite double with a mantissa of at most 53
bits, and their power of ten. -/
def shortest (m : Nat) (e : Int) : Nat × Int :=
  let (num, den) := ratio m e
  let (unit, _) := ratio 1 e
  -- everything times four, so that half the gap below a power of two is whole
  let gapBelow := if m = leadingBit ∧ minExponent < e then unit else 2 * unit
  let top : Int := ((Text.Decimal.digits (num / den)).length : Int) + 1
  let start := if num / den = 0 then (0 : Int) else top
  shortestFrom (4 * num - gapBelow) (4 * num) (4 * num + 2 * unit) (4 * den) (m % 2 == 0) 800 start

/-- Digits times a power of ten, written out. -/
def positional (digits : Nat) (k : Int) : List Char :=
  if 0 ≤ k then Text.Decimal.digits (digits * tenTo k.toNat)
  else
    let places := (-k).toNat
    let all := Text.Decimal.padded (places + 1) digits
    all.take (all.length - places) ++ '.' :: all.drop (all.length - places)

/-- The shortest text of a double that reads back as it. -/
def text : Binary64 → List Char
  | .finite negative m e =>
      let body :=
        if m = 0 then ['0']
        else
          let (digits, k) := shortest m e
          positional digits k
      if negative then '-' :: body else body
  | .infinite negative => if negative then ['-', 'i', 'n', 'f'] else ['i', 'n', 'f']
  | .nan => ['N', 'a', 'N']

/-- As `text`, with a fraction of zero when a finite number would have none. -/
def pointedText (x : Binary64) : List Char :=
  match x with
  | .finite .. => if '.' ∈ x.text then x.text else x.text ++ ['.', '0']
  | x => x.text

end Binary64

end StaticPreview.Number
