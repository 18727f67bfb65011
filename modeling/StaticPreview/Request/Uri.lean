/-
# StaticPreview.Request.Uri -- the target of a request line

What stands in a request line is a path with a query, an absolute address of
which only path and query matter here, or an authority alone, which asks for the
top.  A fragment is dropped.  `Uri.target` reads all three; `Uri.Refusal` says why
a text is none of them.

Each part has its own bytes: those of an authority are few and have a structure
(`checkAuthority`), a path and a query may also hold text outside ASCII.
-/
import StaticPreview.Text.Utf8

namespace StaticPreview.Uri

open StaticPreview.Text

/-- Why a text is no target. -/
inductive Refusal where
  | empty
  | tooLong
  /-- A byte stands where it may not. -/
  | character
  /-- The parts do not fit together. -/
  | format
  | schemeTooLong
  | authority
  deriving DecidableEq, Repr

/-- The text of a refusal. -/
def Refusal.message : Refusal → String
  | .empty => "empty string"
  | .tooLong => "uri too long"
  | .character => "invalid uri character"
  | .format => "invalid format"
  | .schemeTooLong => "scheme too long"
  | .authority => "invalid authority"

/-- The longest text. -/
def maxLength : Nat := 65534

/-- The longest scheme. -/
def maxScheme : Nat := 64

/-- The bytes of an ASCII text. -/
abbrev ascii (s : String) : Bytes := Bytes.ofString s

/-! ## Path and query -/

/-- Whether a byte may stand in a query. -/
def isQueryByte (b : UInt8) : Bool :=
  b == 0x21 || (0x24 ≤ b && b ≤ 0x3B) || b == 0x3D || (0x3F ≤ b && b ≤ 0x7E) || 0x80 ≤ b

/-- Whether a byte may stand in a path: those of a query but a grave accent and a
question mark, and a double quote. -/
def isPathByte (b : UInt8) : Bool :=
  (isQueryByte b && b ≠ 0x3F && b ≠ 0x60) || b == 0x22

/-- A path with a query, after the fragment is dropped. -/
def pathAndQuery (s : Bytes) : Except Refusal (List Char) :=
  let kept := s.takeWhile (· ≠ 0x23)
  let path := kept.takeWhile (· ≠ 0x3F)
  let query := (kept.dropWhile (· ≠ 0x3F)).drop 1
  if !path.all isPathByte || !query.all isQueryByte then .error .character
  else
    match Utf8.decode? kept with
    | some [] => .ok ['/']
    | some text => .ok text
    | none => .error .character

/-! ## Authority -/

/-- Whether a byte ends an authority. -/
def endsAuthority (b : UInt8) : Bool := b == 0x2F || b == 0x3F || b == 0x23

/-- Whether a byte may stand in an authority as it is. -/
def isAuthorityByte (b : UInt8) : Bool :=
  Bytes.isDigit b || Bytes.isAlpha b || (ascii "!$&'()*+,-.:;=@[]_~").contains b

/-- What was seen of an authority so far. -/
structure Seen where
  /-- Colons since the last at sign or closing bracket. -/
  colons : Nat := 0
  opened : Bool := false
  closed : Bool := false
  /-- Whether there was a percent sign since the last at sign or closing bracket. -/
  percent : Bool := false

/-- The most colons between brackets. -/
def maxColons : Nat := 8

/-- One byte of an authority. -/
def see (seen : Seen) (b : UInt8) : Except Refusal Seen :=
  if b = 0x3A then
    if maxColons ≤ seen.colons then .error .authority
    else .ok { seen with colons := seen.colons + 1 }
  else if b = 0x5B then
    if seen.percent || seen.opened then .error .authority else .ok { seen with opened := true }
  else if b = 0x5D then
    if !seen.opened || seen.closed then .error .authority
    else .ok { seen with closed := true, colons := 0, percent := false }
  else if b = 0x40 then .ok { seen with colons := 0, percent := false }
  else if b = 0x25 then .ok { seen with percent := true }
  else if isAuthorityByte b then .ok seen
  else .error .character

/-- Refuse what is no authority; an empty one is allowed. -/
def checkAuthority (s : Bytes) : Except Refusal Unit := do
  let seen ← s.foldlM see {}
  if seen.opened != seen.closed || 1 < seen.colons || s.getLast? = some 0x40 || seen.percent then
    .error .authority
  else .ok ()

/-! ## The whole text -/

/-- Whether a byte may stand in a scheme. -/
def isSchemeByte (b : UInt8) : Bool :=
  Bytes.isDigit b || Bytes.isAlpha b || b == 0x2B || b == 0x2D || b == 0x2E

/-- The text after the scheme and the two solidi behind it, if it has a scheme. -/
def afterScheme (s : Bytes) : Except Refusal (Option Bytes) :=
  let scheme := s.takeWhile isSchemeByte
  let rest := s.drop scheme.length
  if s.length ≤ 3 ∨ !(ascii "://").isPrefixOf rest then .ok none
  else if maxScheme < scheme.length then .error .schemeTooLong
  else .ok (some (rest.drop 3))

/-- The path and query of an absolute address, or the top for an authority alone. -/
def absolute (s : Bytes) : Except Refusal (List Char) := do
  let (rest, hasScheme) : Bytes × Bool :=
    match ← afterScheme s with
    | some rest => (rest, true)
    | none => (s, false)
  let authority := rest.takeWhile (!endsAuthority ·)
  let behind := rest.drop authority.length
  checkAuthority authority
  if hasScheme then
    if authority = [] then .error .format else pathAndQuery behind
  else if behind = [] then .ok ['/']
  else .error .format

/-- The target that the text of a request line stands for. -/
def target (s : Bytes) : Except Refusal (List Char) :=
  if maxLength < s.length then .error .tooLong
  else
    match s with
    | [] => .error .empty
    | [0x2A] => .ok ['*']
    | [b] =>
        if b = 0x2F then .ok ['/']
        else if endsAuthority b then .error .character
        else do
          checkAuthority [b]
          .ok ['/']
    | b :: _ => if b = 0x2F then pathAndQuery s else absolute s

end StaticPreview.Uri
