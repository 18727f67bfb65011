/-
# StaticPreview.Text.Lowercase -- lower case over all of Unicode

Each letter is mapped by itself (`lowerChar`), with one exception: a capital
sigma at the end of a word becomes the final form.  A sigma ends a word when a
cased letter stands before it and none after it, marks passed over.
-/
import StaticPreview.Text.Lowercase.Table

namespace StaticPreview.Text

namespace Lowercase

/-- How far the lower case of a code point lies from it. -/
def shift? (n : Nat) : Option Int :=
  (shifts.find? fun (lo, hi, stride, _) => lo ≤ n && n ≤ hi && (n - lo) % stride == 0).map
    (·.2.2.2)

/-- The lower case of one letter on its own. -/
def lowerChar (c : Char) : List Char :=
  let n := c.toNat
  if n < 0x80 then [if 0x41 ≤ n ∧ n ≤ 0x5A then Char.ofNat (n + 32) else c]
  else if n = 0x130 then ['i', '\u0307']
  else
    match shift? n with
    | some d => [Char.ofNat ((n : Int) + d).toNat]
    | none => [c]

/-- Whether the first letter that is not passed over has a case. -/
def meetsCased (s : List Char) : Bool :=
  match s.dropWhile (Range.holds caseIgnorable) with
  | [] => false
  | c :: _ => Range.holds cased c

/-- The lower case of a text, given what stands before it, nearest first. -/
def lowerFrom : List Char → List Char → List Char
  | _, [] => []
  | before, c :: r =>
      if c = 'Σ' then
        (if meetsCased before && !meetsCased r then 'ς' else 'σ') :: lowerFrom (c :: before) r
      else lowerChar c ++ lowerFrom (c :: before) r

end Lowercase

/-- The lower case of a text. -/
def toLower (s : String) : String := String.ofList (Lowercase.lowerFrom [] s.toList)

end StaticPreview.Text
