/-
# StaticPreview.Text.Reader -- readers of texts

A reader takes what it needs from the front of a text, or fails and takes nothing.
Readers are put together with `do`, one after another, and with `<|>`, the second
where the first fails.

* `many` and `separated` read a piece again and again; a piece that takes nothing
  ends them, so they end on every text;
* `all?` reads a whole text.
-/
namespace StaticPreview.Text

/-- A reader of a value at the front of a text. -/
abbrev Reader := StateT (List Char) Option

namespace Reader

variable {α β : Type}

/-- Nothing can be read here. -/
def refuse : Reader α := fun _ => none

/-- The next character, which stays. -/
def peek? : Reader (Option Char) := fun s => some (s.head?, s)

/-- The next character. -/
def next : Reader Char
  | [] => none
  | c :: r => some (c, r)

/-- The next character, if it is of a kind. -/
def satisfying (p : Char → Bool) : Reader Char
  | [] => none
  | c :: r => if p c then some (c, r) else none

/-- A given character. -/
def char (c : Char) : Reader Unit
  | [] => none
  | d :: r => if d = c then some ((), r) else none

/-- A given text. -/
def exactly (text : List Char) : Reader Unit := fun s =>
  if text.isPrefixOf s then some ((), s.drop text.length) else none

/-- The longest run of characters of a kind. -/
def run (p : Char → Bool) : Reader (List Char) := fun s => some (s.takeWhile p, s.dropWhile p)

/-- The longest run of characters of a kind, which must not be empty. -/
def run1 (p : Char → Bool) : Reader (List Char) := do
  let c ← satisfying p
  let cs ← run p
  pure (c :: cs)

/-- A given number of characters of a kind. -/
def exactRun (p : Char → Bool) : Nat → Reader (List Char)
  | 0 => pure []
  | n + 1 => do
      let c ← satisfying p
      let cs ← exactRun p n
      pure (c :: cs)

/-- Succeeds at the end of the text. -/
def atEnd : Reader Unit
  | [] => some ((), [])
  | _ :: _ => none

/-- What a reader reads, or nothing. -/
def optional (r : Reader α) : Reader (Option α) := (some <$> r) <|> pure none

/-- Pieces read by `r` until it fails or takes nothing, at most so many. -/
def manyUpTo (r : Reader α) : Nat → Reader (List α)
  | 0, s => some ([], s)
  | n + 1, s =>
      match r s with
      | none => some ([], s)
      | some (a, t) =>
          if t.length < s.length then
            match manyUpTo r n t with
            | some (as, u) => some (a :: as, u)
            | none => none
          else some ([], s)

/-- Pieces read by `r` until it fails or takes nothing. -/
def many (r : Reader α) : Reader (List α) := fun s => manyUpTo r s.length s

/-- Pieces read by `r` with what `sep` reads between them. -/
def separated (r : Reader α) (sep : Reader β) : Reader (List α) :=
  (do
    let a ← r
    let as ← many (do let _ ← sep; r)
    pure (a :: as)) <|> pure []

/-- What a reader makes of a whole text. -/
def all? (r : Reader α) (s : List Char) : Option α :=
  match r s with
  | some (a, []) => some a
  | _ => none

end Reader

end StaticPreview.Text
