/-
# StaticPreview.Header -- header fields and lists of them

A field has a name, compared without regard to ASCII case and kept in lower case,
and a value, which is a byte string that need not be text.  A list of fields may
hold several of one name, and their order is kept.

`Headers.put` leaves exactly one field of a name, in the place of the first one of that
name, and touches no other (`values_put_self`, `values_put_of_ne`).
-/
import StaticPreview.Text.Utf8

namespace StaticPreview

namespace Header

/-- Why a name and a value are not a field. -/
inductive Refusal where
  /-- The name is empty or holds a byte that names may not hold. -/
  | name
  /-- The value holds a control byte. -/
  | value
  deriving DecidableEq, Repr

/-- The text of a refusal. -/
def Refusal.message : Refusal → String
  | .name => "invalid HTTP header name"
  | .value => "failed to parse header value"

/-- Whether a byte may stand in a token: a name of a field or of a method. -/
def isTokenByte (b : UInt8) : Bool :=
  Bytes.isDigit b || Bytes.isAlpha b ||
    [0x21, 0x23, 0x24, 0x25, 0x26, 0x27, 0x2A, 0x2B, 0x2D, 0x2E, 0x5E, 0x5F, 0x60, 0x7C,
      0x7E].contains b

/-- The longest name of a field. -/
def maxNameLength : Nat := 65535

/-- Whether bytes may be the name of a field. -/
def isName (s : Bytes) : Bool := s ≠ [] && s.all isTokenByte && s.length ≤ maxNameLength

/-- Whether a byte may stand in a value: everything but the controls other than the tab. -/
def isValueByte (b : UInt8) : Bool := b == 0x09 || (0x20 ≤ b && b ≠ 0x7F)

/-- Whether a byte of a value is a visible ASCII character, a blank or a tab. -/
def isVisibleByte (b : UInt8) : Bool := b == 0x09 || (0x20 ≤ b && b < 0x7F)

/-- The text of ASCII bytes. -/
def asciiText (s : Bytes) : String := String.ofList (s.map fun b => Char.ofNat b.toNat)

end Header

/-- A header field. -/
structure Field where
  /-- The name in lower case. -/
  name : String
  value : Bytes
  deriving DecidableEq, Repr

namespace Field

/-- A field from the bytes of its name and its value. -/
def ofBytes (name value : Bytes) : Except Header.Refusal Field :=
  if !Header.isName name then .error .name
  else if !value.all Header.isValueByte then .error .value
  else .ok { name := Header.asciiText (name.map Bytes.lowerAscii), value }

/-- A field whose value is a text. -/
def ofText (name value : String) : Except Header.Refusal Field :=
  ofBytes (Bytes.ofString name) (Bytes.ofString value)

/-- The value as a text, when all of it is visible. -/
def text? (f : Field) : Option String :=
  if f.value.all Header.isVisibleByte then some (Header.asciiText f.value) else none

end Field

/-- The fields of a message, in order. -/
structure Headers where
  fields : List Field := []
  deriving DecidableEq, Repr

namespace Headers

/-- All the values of a name, in order. -/
def values (hs : Headers) (name : String) : List Bytes :=
  (hs.fields.filter (·.name == name)).map (·.value)

/-- The first field of a name. -/
def get? (hs : Headers) (name : String) : Option Field := hs.fields.find? (·.name == name)

/-- The fields of `fs` with `f` in the place of the first of its name and the
others of its name left out; behind all of them when there is none. -/
def putIn (f : Field) : List Field → List Field
  | [] => [f]
  | g :: r => if g.name = f.name then f :: r.filter (·.name != f.name) else g :: putIn f r

/-- With exactly one field of the name of `f`, which is `f`. -/
def put (hs : Headers) (f : Field) : Headers := ⟨putIn f hs.fields⟩

theorem filter_putIn_self (f : Field) (fs : List Field) :
    (putIn f fs).filter (·.name == f.name) = [f] := by
  induction fs with
  | nil => simp [putIn]
  | cons g r ih =>
      by_cases h : g.name = f.name
      · simp [putIn, h]
      · simp [putIn, h, ih]

/-- **A name that was put has one value.** -/
@[simp] theorem values_put_self (hs : Headers) (f : Field) :
    (hs.put f).values f.name = [f.value] := by
  simp [put, values, filter_putIn_self]

/-- **Putting a name frames every other name.** -/
theorem values_put_of_ne (hs : Headers) {f : Field} {name : String} (h : f.name ≠ name) :
    (hs.put f).values name = hs.values name := by
  have key : ∀ fs : List Field,
      (putIn f fs).filter (·.name == name) = fs.filter (·.name == name) := by
    intro fs
    induction fs with
    | nil => simp [putIn, h]
    | cons g r ih =>
        by_cases hg : g.name = f.name
        · have hgn : g.name ≠ name := fun e => h (hg ▸ e)
          simp only [putIn, hg, if_true]
          rw [List.filter_cons, List.filter_cons]
          simp only [beq_iff_eq, h, hgn, if_false, List.filter_filter]
          apply List.filter_congr
          intro x _
          by_cases hx : x.name = name
          · simp [hx, Ne.symm h]
          · simp [hx]
        · simp only [putIn, hg, if_false, List.filter_cons, ih]
  simp [put, values, key]

end Headers

end StaticPreview
