/-
# StaticPreview.Target.Resolve -- the file that a target asks for

The path of a target is decoded and cut into segments; a segment either takes
its place below the serving root, goes one step back up, or means nothing.  Steps
up are taken among the placed segments only (`place`), so no target climbs above
the root: `mem_settle` says what a segment that is left can look like.
-/
import StaticPreview.Path
import StaticPreview.Target
import StaticPreview.Target.Percent

namespace StaticPreview.Target

open StaticPreview.Text

/-- What a target asks for. -/
structure Resolved where
  /-- The path below the serving root. -/
  fsPath : Bytes
  /-- The decoded path of the target. -/
  urlPath : List Char
  /-- Whether the target's own path ends in a solidus; an escaped one does not count. -/
  trailingSlash : Bool
  deriving DecidableEq, Repr

/-- Whether a segment stands for an entry of a directory: not empty, no dots
alone, and neither a backslash nor a zero in it. -/
def isEntry (segment : List Char) : Bool :=
  segment ≠ [] ∧ segment ≠ ['.'] ∧ segment ≠ ['.', '.'] ∧ '\\' ∉ segment ∧ '\x00' ∉ segment

/-- One segment applied to those placed so far, last first. -/
def place (placed : List (List Char)) (segment : List Char) : List (List Char) :=
  if segment = ['.', '.'] then placed.tail
  else if isEntry segment then segment :: placed
  else placed

/-- The segments that are left when every step up has been taken. -/
def settle (segments : List (List Char)) : List (List Char) :=
  (segments.foldl place []).reverse

/-- The file that a target asks for below a root. -/
def resolve (root : Bytes) (target : List Char) : Resolved :=
  let rawPath := (split target).1
  let urlPath := Percent.decode rawPath
  { fsPath := Path.extend root ((settle (Pieces.split '/' urlPath)).map Utf8.encode)
    urlPath
    trailingSlash := rawPath.getLast? = some '/' }

theorem mem_foldl_place {segments placed : List (List Char)} {s : List Char}
    (h : s ∈ segments.foldl place placed) : s ∈ placed ∨ s ∈ segments ∧ isEntry s := by
  induction segments generalizing placed with
  | nil => exact Or.inl h
  | cons x xs ih =>
      rcases ih h with h | h
      · simp only [place] at h
        split at h
        · exact Or.inl (List.mem_of_mem_tail h)
        · split at h
          · rcases List.mem_cons.1 h with rfl | h
            · exact Or.inr ⟨List.mem_cons_self, by assumption⟩
            · exact Or.inl h
          · exact Or.inl h
      · exact Or.inr ⟨List.mem_cons_of_mem _ h.1, h.2⟩

/-- **What is left is an entry, and was asked for.** -/
theorem mem_settle {segments : List (List Char)} {s : List Char} (h : s ∈ settle segments) :
    s ∈ segments ∧ isEntry s := by
  simpa using mem_foldl_place (List.mem_reverse.1 h)

end StaticPreview.Target
