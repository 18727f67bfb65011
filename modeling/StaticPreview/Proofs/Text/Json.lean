/-
# StaticPreview.Proofs.Text.Json -- JSON texts and the values they are for

A reader of JSON texts (RFC 8259) that keeps everything: numbers are exact, as whole
multiples of a power of ten, and the members of an object are a list, in order and with
repeated names.  Blanks, texts and digits are those of settings in JSON, where numbers are
rounded and tables lose what is said twice; nesting is bounded by the length of the text,
so every text is read as deep as it goes.

Each kind of value reads back from the front of what it is written in: a text with its
escapes (`text_write`), a whole number before a sign that ends it (`readNumber_digits`), and
an object of members that each read back (`read?_object`).
-/
import Mathlib.Tactic.IntervalCases
import StaticPreview.Proofs.Text.Decimal
import StaticPreview.Proofs.Text.Reader
import StaticPreview.Settings.File.Json
import StaticPreview.Text.JsonString

namespace StaticPreview.Text

/-- A JSON value. -/
inductive Json where
  | null
  | boolean (b : Bool)
  /-- The mantissa times ten to the exponent. -/
  | number (mantissa exponent : Int)
  | text (s : String)
  | array (items : List Json)
  /-- The members in order, with their names. -/
  | object (members : List (String × Json))

namespace Json

open Settings.File.Json (blank spaced mark wholeDigits exponent)

/-! ## Reading -/

/-- A number. -/
def readNumber : Reader Json := do
  let sign ← Reader.optional (Reader.char '-')
  let whole ← wholeDigits
  let part? ← Reader.optional (do
    Reader.char '.'
    Reader.run1 Decimal.isDigit)
  let exponent? ← Reader.optional exponent
  let part := part?.getD []
  let size : Int := Decimal.value (whole ++ part)
  let shift : Int :=
    match exponent? with
    | none => 0
    | some (negative, digits) =>
        if negative then -(Decimal.value digits : Int) else Decimal.value digits
  pure (.number (if sign.isSome then -size else size) (shift - part.length))

/-- A given word, for a value. -/
def readWord (word : String) (v : Json) : Reader Json := do
  Reader.exactly word.toList
  pure v

/-- A value without parts. -/
def readAtom : Reader Json :=
  Json.text <$> Settings.File.Json.text <|> readNumber <|> readWord "null" .null <|>
    readWord "true" (.boolean true) <|> readWord "false" (.boolean false)

/-- An array of items. -/
def readArray (item : Reader Json) : Reader Json := do
  mark '['
  let items ← Reader.separated (spaced item) (mark ',')
  Reader.char ']'
  pure (.array items)

/-- A member of an object. -/
def readMember (item : Reader Json) : Reader (String × Json) := do
  let name ← spaced Settings.File.Json.text
  mark ':'
  let v ← spaced item
  pure (name, v)

/-- An object whose members have items as their values. -/
def readObject (item : Reader Json) : Reader Json := do
  mark '\x7b'
  let members ← Reader.separated (readMember item) (mark ',')
  Reader.char '\x7d'
  pure (.object members)

/-- A value with others nested in it to a depth. -/
def readValue : Nat → Reader Json
  | 0 => readAtom
  | depth + 1 => readAtom <|> readArray (readValue depth) <|> readObject (readValue depth)

/-- The value of a JSON text. -/
def read? (s : List Char) : Option Json :=
  Reader.all? (do
    blank
    spaced (readValue s.length)) s

/-! ## Texts -/

/-- A character reads back from its escape, whatever stands behind. -/
theorem basic_or_escape (c : Char) (rest : List Char) :
    (Reader.satisfying Settings.File.Json.isBasic <|> Settings.File.Json.escape)
      (JsonString.escape c ++ rest) = some (c, rest) := by
  have control : ∀ n, n < 0x20 →
      (Reader.satisfying Settings.File.Json.isBasic <|> Settings.File.Json.escape)
        (JsonString.escape (Char.ofNat n) ++ rest) = some (Char.ofNat n, rest) := by
    intro n low
    interval_cases n <;> rfl
  by_cases quote : c = '"'
  · subst quote
    rfl
  by_cases backslash : c = '\\'
  · subst backslash
    rfl
  by_cases low : c.toNat < 0x20
  · have small := control c.toNat low
    rwa [Char.ofNat_toNat] at small
  · have basic : Settings.File.Json.isBasic c = true := by
      simp only [Settings.File.Json.isBasic, Bool.and_eq_true, decide_eq_true_eq, bne_iff_ne]
      exact ⟨⟨Nat.le_of_not_lt low, quote⟩, backslash⟩
    rw [JsonString.escape, if_neg quote, if_neg backslash, if_neg low]
    show ((Reader.satisfying Settings.File.Json.isBasic (c :: rest)).orElse _) = _
    rw [Reader.satisfying, if_pos basic]
    rfl

theorem escape_ne_nil (c : Char) : JsonString.escape c ≠ [] := by
  unfold JsonString.escape
  repeat' split
  all_goals simp

/-- **A text reads back from its JSON string**, whatever stands behind. -/
theorem text_write (s rest : List Char) :
    Settings.File.Json.text (JsonString.write s ++ rest) = some (String.ofList s, rest) := by
  have written : JsonString.write s ++ rest =
      '"' :: (s.flatMap JsonString.escape ++ '"' :: rest) := by
    simp [JsonString.write]
  have stop : (Reader.satisfying Settings.File.Json.isBasic <|> Settings.File.Json.escape)
      ('"' :: rest) = none := rfl
  have inside : Reader.many _ (s.flatMap JsonString.escape ++ '"' :: rest) =
      some (s.map id, '"' :: rest) :=
    Reader.many_flatMap_append basic_or_escape escape_ne_nil stop s
  rw [List.map_id] at inside
  rw [written, Settings.File.Json.text, Reader.bind_of_eq_some (Reader.char_cons _ _),
    Reader.bind_of_eq_some inside, Reader.bind_of_eq_some (Reader.char_cons _ _)]
  rfl

/-! ## Blanks -/

/-- Whether a character may stand between the parts of a text for nothing. -/
def isBlank (c : Char) : Bool := c == ' ' || c == '\t' || c == '\n' || c == '\r'

/-- A text that does not begin with a blank. -/
def Solid (s : List Char) : Prop := ∀ c ∈ s.head?, isBlank c = false

theorem blank_of_solid {s : List Char} (solid : Solid s) : blank s = some ((), s) := by
  have none_ : Reader.run isBlank ([] ++ s) = some ([], s) := Reader.run_append (by simp) solid
  show (Reader.run isBlank >>= fun _ => pure ()) ([] ++ s) = _
  rw [Reader.bind_of_eq_some none_]
  rfl

theorem spaced_of_eq_some {α : Type} {r : Reader α} {a : α} {s t : List Char}
    (read : r s = some (a, t)) (solid : Solid t) : spaced r s = some (a, t) := by
  rw [spaced, Reader.bind_of_eq_some read, Reader.bind_of_eq_some (blank_of_solid solid)]
  rfl

theorem mark_cons (c : Char) {rest : List Char} (solid : Solid rest) :
    mark c (c :: rest) = some ((), rest) :=
  spaced_of_eq_some (Reader.char_cons c rest) solid

theorem solid_write (s rest : List Char) : Solid (JsonString.write s ++ rest) := by
  rintro c ⟨⟩
  rfl

/-! ## Values without parts -/

/-- A text that begins with the sign that ends a member: of the next, or of the object. -/
def Ends (s : List Char) : Prop := ∃ c r, s = c :: r ∧ (c = ',' ∨ c = '\x7d')

variable {rest : List Char}

theorem Ends.solid (ends : Ends rest) : Solid rest := by
  obtain ⟨c, r, rfl, sign⟩ := ends
  rintro d ⟨⟩
  rcases sign with rfl | rfl <;> rfl

/-- A text that is read as a value without parts wherever a member ends behind it. -/
structure Atom (raw : List Char) (v : Json) : Prop where
  solid : ∀ rest, Solid (raw ++ rest)
  reads : ∀ {rest}, Ends rest → readAtom (raw ++ rest) = some (v, rest)

theorem Atom.readValue {raw : List Char} {v : Json} (atom : Atom raw v) (depth : Nat)
    (ends : Ends rest) : readValue depth (raw ++ rest) = some (v, rest) := by
  cases depth with
  | zero => exact atom.reads ends
  | succ depth =>
      show (readAtom (raw ++ rest)).orElse _ = _
      rw [atom.reads ends]
      rfl

/-- A text in its quotes. -/
theorem atom_text (s : String) : Atom (JsonString.write s.toList) (.text s) := by
  refine ⟨solid_write _, fun {rest} _ => ?_⟩
  have read : (Json.text <$> Settings.File.Json.text) (JsonString.write s.toList ++ rest) =
      some (.text s, rest) := by
    rw [map_eq_pure_bind, Reader.bind_of_eq_some (text_write s.toList rest), String.ofList_toList]
    rfl
  show ((Json.text <$> Settings.File.Json.text) _).orElse _ = _
  rw [read]
  rfl

/-- The word for nothing. -/
theorem atom_null : Atom "null".toList .null := by
  refine ⟨fun rest => by rintro c ⟨⟩; rfl, fun {rest} _ => ?_⟩
  rfl

theorem wholeDigits_digits (n : Nat) (ends : Ends rest) :
    wholeDigits (Decimal.digits n ++ rest) = some (Decimal.digits n, rest) := by
  have stop : ∀ c ∈ rest.head?, Decimal.isDigit c = false := by
    obtain ⟨c, r, rfl, sign⟩ := ends
    rintro d ⟨⟩
    rcases sign with rfl | rfl <;> rfl
  have taken := Reader.run1_append (Decimal.digits_ne_nil n)
    (fun _ => Decimal.isDigit_of_mem_digits) stop
  have proper : ¬ ((Decimal.digits n).head? = some '0' ∧ 1 < (Decimal.digits n).length) := by
    rintro ⟨zero, long⟩
    rcases Nat.eq_zero_or_pos n with rfl | positive
    · rw [Decimal.digits] at long
      exact absurd long (by decide)
    · exact Decimal.head?_digits_ne positive zero
  rw [wholeDigits, Reader.bind_of_eq_some taken, if_neg proper]
  rfl

theorem exists_digits_append (n : Nat) (rest : List Char) :
    ∃ d r, Decimal.digits n ++ rest = d :: r ∧ Decimal.isDigit d = true := by
  obtain ⟨d, ds, written⟩ := List.exists_cons_of_ne_nil (Decimal.digits_ne_nil n)
  refine ⟨d, ds ++ rest, by rw [written, List.cons_append], ?_⟩
  apply Decimal.isDigit_of_mem_digits (n := n)
  rw [written]
  exact List.mem_cons_self

/-- **A whole number reads back as it is, however large**, before a sign that ends it. -/
theorem readNumber_digits (n : Nat) (ends : Ends rest) :
    readNumber (Decimal.digits n ++ rest) = some (.number n 0, rest) := by
  have noMinus : Reader.char '-' (Decimal.digits n ++ rest) = none := by
    obtain ⟨d, r, written, digit⟩ := exists_digits_append n rest
    rw [written]
    apply Reader.char_of_ne
    rintro rfl
    exact absurd digit (by decide)
  have whole := wholeDigits_digits n ends
  obtain ⟨c, r, rfl, sign⟩ := ends
  have noPart : (do
      Reader.char '.'
      Reader.run1 Decimal.isDigit) (c :: r) = none := by
    rcases sign with rfl | rfl <;> rfl
  have noExponent : exponent (c :: r) = none := by
    rcases sign with rfl | rfl <;> rfl
  rw [readNumber, Reader.bind_of_eq_some (Reader.optional_of_eq_none noMinus),
    Reader.bind_of_eq_some whole, Reader.bind_of_eq_some (Reader.optional_of_eq_none noPart),
    Reader.bind_of_eq_some (Reader.optional_of_eq_none noExponent)]
  simp only [Option.getD_none, List.append_nil, Decimal.value_digits]
  rfl

/-- A whole number in its digits. -/
theorem atom_number (n : Nat) : Atom (Decimal.digits n) (.number n 0) := by
  constructor
  · intro rest c first
    obtain ⟨d, r, written, digit⟩ := exists_digits_append n rest
    rw [written] at first
    obtain rfl : d = c := Option.some.inj first
    by_contra blank
    simp only [isBlank, Bool.not_eq_false, Bool.or_eq_true, beq_iff_eq] at blank
    rcases blank with ((rfl | rfl) | rfl) | rfl <;> exact absurd digit (by decide)
  · intro rest ends
    have noText : (Json.text <$> Settings.File.Json.text) (Decimal.digits n ++ rest) = none := by
      obtain ⟨d, r, written, digit⟩ := exists_digits_append n rest
      have noQuote : Reader.char '"' (d :: r) = none := by
        apply Reader.char_of_ne
        rintro rfl
        exact absurd digit (by decide)
      have noString : Settings.File.Json.text (d :: r) = none := by
        show (Reader.char '"' (d :: r)).bind _ = none
        rw [noQuote]
        rfl
      show ((Settings.File.Json.text _).bind _) = none
      rw [written, noString]
      rfl
    rw [readAtom]
    show (((Json.text <$> Settings.File.Json.text) _).orElse _) = _
    rw [noText]
    show ((readNumber _).orElse _) = _
    rw [readNumber_digits n ends]
    rfl

/-! ## Objects -/

/-- A member as it is written: its name, and a text that its value is read from. -/
structure Member where
  name : String
  raw : List Char
  value : Json
  atom : Atom raw value

namespace Member

/-- A member with its name. -/
def write (m : Member) : List Char := JsonString.write m.name.toList ++ ':' :: m.raw

/-- What a member says. -/
def pair (m : Member) : String × Json := (m.name, m.value)

theorem solid_write (m : Member) (rest : List Char) : Solid (m.write ++ rest) := by
  rw [write, List.append_assoc]
  exact Json.solid_write _ _

theorem readMember_write (depth : Nat) (m : Member) (ends : Ends rest) :
    readMember (Json.readValue depth) (m.write ++ rest) = some (m.pair, rest) := by
  have name : spaced Settings.File.Json.text
      (JsonString.write m.name.toList ++ (':' :: (m.raw ++ rest))) =
        some (m.name, ':' :: (m.raw ++ rest)) := by
    rw [spaced_of_eq_some (text_write _ _) (by rintro c ⟨⟩; rfl), String.ofList_toList]
  have value := spaced_of_eq_some (m.atom.readValue depth ends) ends.solid
  rw [write, List.append_assoc, List.cons_append, readMember, Reader.bind_of_eq_some name,
    Reader.bind_of_eq_some (mark_cons ':' (m.atom.solid rest)), Reader.bind_of_eq_some value]
  rfl

end Member

/-- An object of members, with commas between them and no blanks. -/
def writeObject (first : Member) (others : List Member) : List Char :=
  '\x7b' :: (first.write ++ (others.flatMap fun m => ',' :: m.write)) ++ ['\x7d']

theorem separated_members (depth : Nat) (first : Member) (others : List Member) :
    Reader.separated (readMember (readValue depth)) (mark ',')
        (first.write ++ (others.flatMap (fun m => ',' :: m.write) ++ ['\x7d'])) =
      some ((first :: others).map Member.pair, ['\x7d']) := by
  have next (m : Member) (rest : List Char) (ends : Ends rest) :
      (mark ',' >>= fun _ => readMember (readValue depth)) (',' :: m.write ++ rest) =
        some (m.pair, rest) := by
    rw [List.cons_append, Reader.bind_of_eq_some (mark_cons ',' (m.solid_write rest)),
      m.readMember_write depth ends]
  have comma (m : Member) (rest : List Char) : Ends (',' :: m.write ++ rest) :=
    ⟨',', m.write ++ rest, rfl, .inl rfl⟩
  have close : Ends ['\x7d'] := ⟨'\x7d', [], rfl, .inr rfl⟩
  have behind := Reader.many_flatMap_append_of_ready Ends next comma (by simp) close rfl others
  have front : Ends (others.flatMap (fun m => ',' :: m.write) ++ ['\x7d']) := by
    cases others with
    | nil => exact close
    | cons m ms =>
        rw [List.flatMap_cons, List.append_assoc]
        exact comma m _
  rw [Reader.separated]
  show (Option.orElse _ _ : Option _) = _
  rw [Reader.bind_of_eq_some (first.readMember_write depth front), Reader.bind_of_eq_some behind]
  rfl

/-- **An object reads back as its members**, in order. -/
theorem read?_object (first : Member) (others : List Member) :
    read? (writeObject first others) = some (.object ((first :: others).map Member.pair)) := by
  have inner (depth : Nat) : readValue (depth + 1) (writeObject first others) =
      some (.object ((first :: others).map Member.pair), []) := by
    have opened := mark_cons '\x7b' (first.solid_write
      (others.flatMap (fun m => ',' :: m.write) ++ ['\x7d']))
    have object : readObject (readValue depth) (writeObject first others) =
        some (.object ((first :: others).map Member.pair), []) := by
      rw [writeObject, List.cons_append, List.append_assoc, readObject,
        Reader.bind_of_eq_some opened,
        Reader.bind_of_eq_some (separated_members depth first others)]
      rfl
    have noAtom : readAtom (writeObject first others) = none := rfl
    have noArray : readArray (readValue depth) (writeObject first others) = none := rfl
    rw [readValue, Reader.orElse_of_eq_none noAtom, Reader.orElse_of_eq_none noArray, object]
  have deep : ∃ depth, (writeObject first others).length = depth + 1 := ⟨_, rfl⟩
  obtain ⟨depth, length⟩ := deep
  have solid : Solid (writeObject first others) := by
    rintro c ⟨⟩
    rfl
  rw [read?, Reader.all?, Reader.bind_of_eq_some (blank_of_solid solid), length,
    spaced_of_eq_some (inner depth) (by rintro c ⟨⟩)]

namespace Example

/-- Blanks, numbers with a part and an exponent, escapes, and a name that stands twice. -/
example : read? " \x7b\"a\": [-1.5e2 , null], \"a\":\"\\u00e9\"\x7d".toList =
    some (.object [("a", .array [.number (-15) 1, .null]), ("a", .text "é")]) := by
  cbv

/-- A zero in front of other digits is no number. -/
example : read? "\x7b\"a\":01\x7d".toList = none := by
  cbv

end Example

end Json

end StaticPreview.Text
