/-
# StaticPreview.Proofs.Time.IsoStamp -- a written local time reads back

A reader of times in the form of ISO 8601, with as many digits as there are in each place,
a sign in front of a year or none, and a fraction of a second or none.  Each part of a time
is read up to the sign that ends it (`readNumber_padded`, `readYear_yearText`,
`readFraction_fractionText`, `readZone_zoneText`), and the date of a day has that day's
number, so what is read is the time as it is shown: `iso?_isoText`.

A shown time differs from the time where the distance from UTC is not a number of whole
minutes (`shown_eq_iff`): the clock is right, and the distance is rounded.
-/
import StaticPreview.Proofs.Text.Decimal
import StaticPreview.Proofs.Text.Reader
import StaticPreview.Proofs.Time.Calendar
import StaticPreview.Time.Stamp

namespace StaticPreview.Time.Stamp

open StaticPreview.Text

/-! ## Reading -/

/-- A number in digits. -/
def readNumber : Reader Nat := do
  let digits ← Reader.run1 Decimal.isDigit
  pure (Decimal.value digits)

/-- A sign. -/
def readSign : Reader Char := Reader.satisfying fun c => c == '+' || c == '-'

/-- A number with its sign. -/
def signed (sign : Char) (n : Nat) : Int := if sign = '-' then -n else n

/-- A year, which may have a sign. -/
def readYear : Reader Int := do
  let sign? ← Reader.optional readSign
  let year ← readNumber
  pure (signed (sign?.getD '+') year)

/-- The digits behind a point. -/
def readPart : Reader (List Char) := do
  Reader.char '.'
  Reader.run1 Decimal.isDigit

/-- The fraction of a second, in nanoseconds. -/
def readFraction : Reader Nat := do
  let digits? ← Reader.optional readPart
  match digits? with
  | none => pure 0
  | some digits => pure (Decimal.value digits * 1000000000 / Nat.pow 10 digits.length)

/-- The distance from UTC, in seconds. -/
def readZone : Reader Int := do
  let sign ← readSign
  let hours ← readNumber
  Reader.char ':'
  let minutes ← readNumber
  pure (signed sign ((hours * 60 + minutes) * 60))

/-- A time on a local clock. -/
def readIso : Reader Stamp := do
  let year ← readYear
  Reader.char '-'
  let month ← readNumber
  Reader.char '-'
  let day ← readNumber
  Reader.char 'T'
  let hour ← readNumber
  Reader.char ':'
  let minute ← readNumber
  Reader.char ':'
  let second ← readNumber
  let nanos ← readFraction
  let offset ← readZone
  let date : Date := { year, month, day }
  let shown : Int := date.number * 86400 + (hour * 3600 + minute * 60 + second : Nat)
  pure { instant := Instant.ofNanoseconds ((shown - offset) * 1000000000 + nanos), offset }

/-- The time that a whole text says. -/
def iso? (s : List Char) : Option Stamp := Reader.all? readIso s

/-! ## What is shown -/

/-- The sign that a number is written with. -/
def signOf (n : Int) : Char := if n < 0 then '-' else '+'

theorem signed_of_neg {n : Int} (negative : n < 0) (size : Nat) :
    signed (signOf n) size = -size := by
  rw [signed, signOf, if_pos negative, if_pos rfl]

theorem signed_of_not_neg {n : Int} (positive : ¬ n < 0) (size : Nat) :
    signed (signOf n) size = size := by
  rw [signed, signOf, if_neg positive, if_neg (by decide)]

/-- The distance from UTC to the minute, as it is written. -/
def shownOffset (s : Stamp) : Int :=
  signed (signOf s.offset) ((s.offset.natAbs + 30) / 60 * 60)

/-- The time that a written time says: its clock shows the same, at the written distance
from UTC. -/
def shown (s : Stamp) : Stamp :=
  { instant :=
      { seconds := s.instant.seconds + s.offset - s.shownOffset
        nanos := s.instant.nanos
        nanos_lt := s.instant.nanos_lt }
    offset := s.shownOffset }

theorem shownOffset_eq_iff (s : Stamp) : s.shownOffset = s.offset ↔ s.offset % 60 = 0 := by
  rw [shownOffset]
  by_cases west : s.offset < 0
  · rw [signed_of_neg west]
    omega
  · rw [signed_of_not_neg west]
    omega

/-- **A time is shown as it is exactly when its distance from UTC is one of whole minutes.** -/
theorem shown_eq_iff (s : Stamp) : s.shown = s ↔ s.offset % 60 = 0 := by
  rw [← shownOffset_eq_iff]
  constructor
  · intro same
    exact congrArg Stamp.offset same
  · intro same
    obtain ⟨⟨seconds, nanos, bound⟩, offset⟩ := s
    have whole : seconds + offset - offset = seconds := by omega
    simp only [shown, same, whole]

/-! ## One part after another -/

variable {rest : List Char}

/-- A number is read up to the first character that is no digit. -/
theorem readNumber_padded (width n : Nat) (stop : ∀ c ∈ rest.head?, Decimal.isDigit c = false) :
    readNumber (Decimal.padded width n ++ rest) = some (n, rest) := by
  have filled : Decimal.padded width n ≠ [] := by
    intro empty
    exact Decimal.digits_ne_nil n (List.append_eq_nil_iff.1 empty).2
  have taken := Reader.run1_append filled (fun _ => Decimal.isDigit_of_mem_padded) stop
  rw [readNumber, Reader.bind_of_eq_some taken, Decimal.value_padded]
  rfl

theorem readSign_signOf (n : Int) (rest : List Char) :
    readSign (signOf n :: rest) = some (signOf n, rest) := by
  have sign : (signOf n == '+' || signOf n == '-') = true := by
    unfold signOf
    split <;> rfl
  exact if_pos sign

theorem readSign_padded (width n : Nat) (rest : List Char) :
    readSign (Decimal.padded width n ++ rest) = none := by
  cases written : Decimal.padded width n ++ rest with
  | nil => rfl
  | cons c r =>
      have digit : Decimal.isDigit c = true :=
        Decimal.isDigit_of_head?_padded (congrArg List.head? written)
      rw [readSign, Reader.satisfying, if_neg]
      intro sign
      simp only [Bool.or_eq_true, beq_iff_eq] at sign
      rcases sign with rfl | rfl <;> exact absurd digit (by decide)

/-- **A year reads back with its sign**, before the sign that ends it. -/
theorem readYear_yearText (year : Int) (rest : List Char) :
    readYear (yearText year ++ '-' :: rest) = some (year, '-' :: rest) := by
  have number (n : Nat) : readNumber (Decimal.padded 4 n ++ '-' :: rest) =
      some (n, '-' :: rest) := readNumber_padded 4 n (by rintro c ⟨⟩; rfl)
  by_cases four : 0 ≤ year ∧ year ≤ 9999
  · have unsigned : signed '+' year.toNat = year := by
      rw [signed, if_neg (by decide)]
      omega
    rw [yearText, if_pos four, readYear,
      Reader.bind_of_eq_some (Reader.optional_of_eq_none (readSign_padded 4 _ _)),
      Reader.bind_of_eq_some (number _), Option.getD_none, unsigned]
    rfl
  · have written : yearText year = signOf year :: Decimal.padded 4 year.natAbs := if_neg four
    have together : signed (signOf year) year.natAbs = year := by
      by_cases early : year < 0
      · rw [signed_of_neg early]
        omega
      · rw [signed_of_not_neg early]
        omega
    rw [written, List.cons_append, readYear,
      Reader.bind_of_eq_some (Reader.optional_of_eq_some (readSign_signOf year _)),
      Reader.bind_of_eq_some (number _), Option.getD_some, together]
    rfl

/-- The distance from UTC reads back as it is shown. -/
theorem readZone_zoneText (s : Stamp) : readZone (s.zoneText [':']) = some (s.shownOffset, []) := by
  have written : s.zoneText [':'] = signOf s.offset ::
      (two ((s.offset.natAbs + 30) / 60 / 60) ++ ':' ::
        (two ((s.offset.natAbs + 30) / 60 % 60) ++ [])) := by
    simp [zoneText, signOf]
  have hours (n : Nat) (rest : List Char) : readNumber (two n ++ ':' :: rest) =
      some (n, ':' :: rest) := readNumber_padded 2 n (by rintro c ⟨⟩; rfl)
  have minutes (n : Nat) : readNumber (two n ++ []) = some (n, []) :=
    readNumber_padded 2 n (by simp)
  have whole := Nat.div_add_mod' ((s.offset.natAbs + 30) / 60) 60
  rw [written, readZone, Reader.bind_of_eq_some (readSign_signOf _ _),
    Reader.bind_of_eq_some (hours _ _), Reader.bind_of_eq_some (Reader.char_cons _ _),
    Reader.bind_of_eq_some (minutes _), whole]
  rfl

/-- **A fraction of a second reads back whatever number of digits it needs**, before the
distance from UTC. -/
theorem readFraction_fractionText {nanos : Nat} (bound : nanos < 1000000000) (s : Stamp) :
    readFraction (fractionText nanos ++ s.zoneText [':']) = some (nanos, s.zoneText [':']) := by
  have stop : ∀ c ∈ (s.zoneText [':']).head?, Decimal.isDigit c = false ∧ c ≠ '.' := by
    rintro c ⟨⟩
    split <;> decide
  -- in so many digits, a number is one of so many parts of a second
  have part (width n : Nat) (positive : 0 < width) (fits : n < Nat.pow 10 width) :
      readFraction ('.' :: Decimal.padded width n ++ s.zoneText [':']) =
        some (n * 1000000000 / Nat.pow 10 width, s.zoneText [':']) := by
    have length := Decimal.length_padded positive fits
    have filled : Decimal.padded width n ≠ [] := by
      intro empty
      rw [empty] at length
      exact absurd length (Nat.ne_of_lt positive)
    have taken := Reader.run1_append filled (fun _ => Decimal.isDigit_of_mem_padded)
      fun c member => (stop c member).1
    have digits : readPart ('.' :: (Decimal.padded width n ++ s.zoneText [':'])) =
        some (Decimal.padded width n, s.zoneText [':']) := by
      rw [readPart, Reader.bind_of_eq_some (Reader.char_cons _ _), taken]
    rw [List.cons_append, readFraction,
      Reader.bind_of_eq_some (Reader.optional_of_eq_some digits)]
    show some (Decimal.value (Decimal.padded width n) * 1000000000 / _, _) = _
    rw [Decimal.value_padded, length]
  unfold fractionText
  split
  · rename_i whole
    have noPart : readPart (s.zoneText [':']) = none := by
      cases written : s.zoneText [':'] with
      | nil => rfl
      | cons c r =>
          have sign := (stop c (by rw [written]; rfl)).2
          show (Reader.char '.' (c :: r)).bind _ = none
          rw [Reader.char_of_ne sign]
          rfl
    rw [List.nil_append, readFraction, Reader.bind_of_eq_some (Reader.optional_of_eq_none noPart),
      whole]
    rfl
  split
  · rename_i thousandths
    have exactly : nanos / 1000000 * 1000000000 / Nat.pow 10 3 = nanos := by
      show _ / 1000 = nanos
      omega
    rw [part 3 _ (by decide) (show _ < 1000 by omega), exactly]
  split
  · rename_i millionths
    have exactly : nanos / 1000 * 1000000000 / Nat.pow 10 6 = nanos := by
      show _ / 1000000 = nanos
      omega
    rw [part 6 _ (by decide) (show _ < 1000000 by omega), exactly]
  · have exactly : nanos * 1000000000 / Nat.pow 10 9 = nanos := by
      show _ / 1000000000 = nanos
      omega
    rw [part 9 _ (by decide) (show _ < 1000000000 by omega), exactly]

/-- A time comes together again from its seconds and its fraction. -/
theorem ofNanoseconds_add {nanos : Nat} (bound : nanos < 1000000000) (seconds : Int) :
    Instant.ofNanoseconds (seconds * 1000000000 + nanos) = ⟨seconds, nanos, bound⟩ := by
  have whole : (seconds * 1000000000 + nanos) / 1000000000 = seconds := by omega
  have fraction : ((seconds * 1000000000 + nanos) % 1000000000).toNat = nanos := by omega
  simp only [Instant.ofNanoseconds, whole, fraction]

/-- **A written time reads back as it is shown.** -/
theorem iso?_isoText (s : Stamp) : iso? s.isoText = some s.shown := by
  have number (n : Nat) {c : Char} (stop : Decimal.isDigit c = false) (rest : List Char) :
      readNumber (two n ++ c :: rest) = some (n, c :: rest) :=
    readNumber_padded 2 n (by rintro d ⟨⟩; exact stop)
  have second : readNumber (two s.dateTime.second ++
      (fractionText s.instant.nanos ++ s.zoneText [':'])) =
        some (s.dateTime.second, fractionText s.instant.nanos ++ s.zoneText [':']) := by
    apply readNumber_padded 2
    unfold fractionText
    split
    · rintro c ⟨⟩
      split <;> rfl
    · split
      · rintro c ⟨⟩; rfl
      split <;> (rintro c ⟨⟩; rfl)
  have clock := DateTime.seconds_ofSeconds (s.instant.seconds + s.offset)
  have read : readIso s.isoText = some (s.shown, []) := by
    simp only [isoText, DateTime.clockText, List.append_assoc, List.cons_append]
    rw [readIso, Reader.bind_of_eq_some (readYear_yearText _ _),
      Reader.bind_of_eq_some (Reader.char_cons _ _),
      Reader.bind_of_eq_some (number _ (by rfl) _), Reader.bind_of_eq_some (Reader.char_cons _ _),
      Reader.bind_of_eq_some (number _ (by rfl) _), Reader.bind_of_eq_some (Reader.char_cons _ _),
      Reader.bind_of_eq_some (number _ (by rfl) _), Reader.bind_of_eq_some (Reader.char_cons _ _),
      Reader.bind_of_eq_some (number _ (by rfl) _), Reader.bind_of_eq_some (Reader.char_cons _ _),
      Reader.bind_of_eq_some second,
      Reader.bind_of_eq_some (readFraction_fractionText s.instant.nanos_lt s),
      Reader.bind_of_eq_some (readZone_zoneText s)]
    show some (Stamp.mk (Instant.ofNanoseconds _) _, _) = _
    rw [dateTime, clock, ofNanoseconds_add s.instant.nanos_lt]
    rfl
  rw [iso?, Reader.all?, read]

end StaticPreview.Time.Stamp
