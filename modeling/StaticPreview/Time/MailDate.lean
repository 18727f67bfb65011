/-
# StaticPreview.Time.MailDate -- dates as mail and HTTP headers may spell them

Readers of dates are lenient: an optional weekday, a day of one or two digits, a
month by its English abbreviation, a year of two digits or more, a time with or
without seconds, a zone, and comments in parentheses at the end.  White space of
any kind separates the fields; letters may have either case.

* A year of two digits means 1950 to 2049, one of three digits counts from 1900.
* A weekday that does not fit the date makes the whole date unreadable.
* Second 60 is a leap second: the second before it, with a full second of
  fraction (`Reading.leap`).
-/
import StaticPreview.Text.Blank
import StaticPreview.Text.Decimal
import StaticPreview.Time.Instant

namespace StaticPreview.Time.MailDate

open StaticPreview.Text

/-- A date that was read. -/
structure Reading where
  /-- Seconds since the start of 1970 in UTC. -/
  seconds : Int
  /-- Whether the time is the leap second after that second. -/
  leap : Bool
  deriving DecidableEq, Repr

/-- White space that has to be there. -/
def blanks? (s : List Char) : Option (List Char) :=
  match s with
  | c :: r => if isBlank c then some (trimStart r) else none
  | [] => none

/-- A number of at least `least` and at most `most` digits; a further digit is left over. -/
def number? (least most : Nat) (s : List Char) : Option (Nat × List Char) :=
  let digits := (s.take most).takeWhile Decimal.isDigit
  if digits.length < least then none else some (Decimal.value digits, s.drop digits.length)

/-- As `number?`, without a bound on the digits; their number comes first. -/
def longNumber? (least : Nat) (s : List Char) : Option (Nat × Nat × List Char) :=
  let digits := s.takeWhile Decimal.isDigit
  if digits.length < least then none
  else some (digits.length, Decimal.value digits, s.drop digits.length)

/-- One of some three-letter names in any case, by its place among them. -/
def name? (names : List String) (s : List Char) : Option (Nat × List Char) :=
  (names.findIdx? fun name => name.toList.map Char.toLower == (s.take 3).map Char.toLower).map
    fun i => (i, s.drop 3)

/-- A character that has to come next. -/
def char? (c : Char) : List Char → Option (List Char)
  | d :: r => if d = c then some r else none
  | [] => none

/-- The year that a number of so many digits means. -/
def fullYear (length value : Nat) : Nat :=
  if length = 2 then (if value < 50 then value + 2000 else value + 1900)
  else if length = 3 then value + 1900
  else value

/-- The zones that have a name, in hours east of UTC. -/
def zoneHours : List (String × Int) :=
  [("gmt", 0), ("ut", 0), ("z", 0), ("edt", -4), ("est", -5), ("cdt", -5), ("cst", -6),
    ("mdt", -6), ("mst", -7), ("pdt", -7), ("pst", -8)]

/-- Whether a character is an ASCII letter. -/
def isLetter (c : Char) : Bool := ('a' ≤ c && c ≤ 'z') || ('A' ≤ c && c ≤ 'Z')

/-- A zone: a name, a military letter other than J (which says nothing and counts
as UTC), or a sign and four digits.  The value is in seconds east of UTC. -/
def zone? (s : List Char) : Option (Int × List Char) :=
  let letters := (s.takeWhile isLetter).map Char.toLower
  let rest := s.dropWhile isLetter
  match letters, s with
  | [], sign :: h₁ :: h₂ :: m₁ :: m₂ :: rest =>
      if (sign = '+' ∨ sign = '-') ∧ ([h₁, h₂, m₁, m₂].all Decimal.isDigit) ∧ m₁ ≤ '5' then
        let seconds : Int :=
          (Decimal.value [h₁, h₂] * 3600 + Decimal.value [m₁, m₂] * 60 : Nat)
        some (if sign = '-' then -seconds else seconds, rest)
      else none
  | [], _ => none
  | _ :: _, _ =>
      match zoneHours.lookup (String.ofList letters), letters with
      | some hours, _ => some (hours * 3600, rest)
      | none, [c] => if c = 'j' then none else some (0, rest)
      | none, _ => none

/-- The text after a comment of which `depth` parentheses are open; a backslash
takes the character after it out of the count. -/
def skipComment (depth : Nat) (escaped : Bool) : List Char → Option (List Char)
  | [] => none
  | c :: r =>
      if escaped then skipComment depth false r
      else if c = '\\' then skipComment depth true r
      else if c = '(' then skipComment (depth + 1) false r
      else if c = ')' then (if depth ≤ 1 then some r else skipComment (depth - 1) false r)
      else skipComment depth false r

theorem skipComment_length {depth : Nat} {escaped : Bool} {s r : List Char}
    (h : skipComment depth escaped s = some r) : r.length < s.length := by
  induction s generalizing depth escaped with
  | nil => simp [skipComment] at h
  | cons c s ih =>
      simp only [skipComment] at h
      simp only [List.length_cons]
      repeat' (split at h)
      all_goals first
        | (injection h with h; subst h; omega)
        | (exact Nat.lt_succ_of_lt (ih h))

/-- The text after a comment, white space before it passed over. -/
def comment? (s : List Char) : Option (List Char) :=
  match trimStart s with
  | '(' :: r => skipComment 1 false r
  | _ => none

theorem comment?_length {s r : List Char} (h : comment? s = some r) : r.length < s.length := by
  unfold comment? at h
  split at h
  · rename_i t ht
    have h₁ := skipComment_length h
    have h₂ := trimStart_length_le s
    rw [ht, List.length_cons] at h₂
    omega
  · simp at h

/-- The text after all the comments at its front. -/
def dropComments (s : List Char) : List Char :=
  match _h : comment? s with
  | none => s
  | some r => dropComments r
termination_by s.length
decreasing_by exact comment?_length (by assumption)

/-- The fields of a date, before they are checked against each other. -/
structure Fields where
  weekday : Option Nat
  day : Nat
  month : Nat
  year : Nat
  hour : Nat
  minute : Nat
  second : Nat
  /-- Seconds east of UTC. -/
  zone : Int
  deriving DecidableEq, Repr

/-- The optional weekday with its comma. -/
def weekday? (s : List Char) : Option (Option Nat × List Char) :=
  match name? weekdayNames s with
  | some (weekday, r) => (char? ',' r).map fun r => (some weekday, r)
  | none => some (none, s)

/-- The optional seconds with their colon. -/
def second? (s : List Char) : Option (Nat × List Char) :=
  match char? ':' (trimStart s) with
  | some r => number? 2 2 r
  | none => some (0, s)

/-- The fields that a whole text holds. -/
def fields? (s : List Char) : Option Fields := do
  let (weekday, s) ← weekday? (trimStart s)
  let (day, s) ← number? 1 2 (trimStart s)
  let s ← blanks? s
  let (month, s) ← name? monthNames s
  let s ← blanks? s
  let (length, year, s) ← longNumber? 2 s
  let s ← blanks? s
  let (hour, s) ← number? 2 2 s
  let s ← char? ':' (trimStart s)
  let (minute, s) ← number? 2 2 (trimStart s)
  let (second, s) ← second? s
  let s ← blanks? s
  let (zone, s) ← zone? s
  if dropComments s = [] then
    some { weekday, day, month := month + 1, year := fullYear length year, hour, minute, second,
           zone }
  else none

/-- The time that fields stand for, if the calendar and the clock have it. -/
def Fields.toReading? (f : Fields) : Option Reading :=
  let date : Date := { year := f.year, month := f.month, day := f.day }
  let leap := f.second = 60
  let second : Nat := if leap then 59 else f.second
  let seconds : Int :=
    date.number * 86400 + ((f.hour * 3600 + f.minute * 60 + second : Nat) : Int) - f.zone
  if date.Valid ∧ (f.year : Int) ≤ lastYear ∧ f.hour < 24 ∧ f.minute < 60 ∧ f.second ≤ 60 ∧
      f.zone.natAbs < 86400 ∧ (f.weekday.all (· == Date.weekdayOf date.number)) ∧
      inCalendar seconds then
    some { seconds, leap }
  else none

/-- The time that a text stands for, white space around it passed over. -/
def read? (s : List Char) : Option Reading := (fields? (trim s)).bind Fields.toReading?

end StaticPreview.Time.MailDate
