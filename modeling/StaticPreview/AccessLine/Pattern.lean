/-
# StaticPreview.AccessLine.Pattern -- variables put into a pattern

The variables of a pattern are put in one after another: all occurrences of the
first, then all occurrences of the second in what came out, and so on
(`substitute`).  A value that was put in is therefore read again by the variables
after it.
-/
import StaticPreview.Number.Binary64

namespace StaticPreview.AccessLine

/-- The text from a place on with every occurrence of `name` replaced; `skip`
characters at its front belong to an occurrence already replaced. -/
def replaceFrom (name text : List Char) : Nat → List Char → List Char
  | _, [] => []
  | skip + 1, _ :: r => replaceFrom name text skip r
  | 0, c :: r =>
      if name.isPrefixOf (c :: r) then text ++ replaceFrom name text (name.length - 1) r
      else c :: replaceFrom name text 0 r

/-- Every occurrence of `name` replaced, from the left and without overlaps. -/
def replaceAll (name text s : List Char) : List Char := replaceFrom name text 0 s

/-- The variables put in, one after another. -/
def substitute (bindings : List (List Char × List Char)) (pattern : List Char) : List Char :=
  bindings.foldl (fun s (name, text) => replaceAll name text s) pattern

/-- Microseconds as seconds with three places, by way of the nearest double. -/
def secondsText (micros : Nat) : List Char :=
  ((Number.Binary64.ofNat micros).divNat 1000000).fixedText 3

end StaticPreview.AccessLine
