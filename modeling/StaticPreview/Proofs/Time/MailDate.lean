/-
# StaticPreview.Proofs.Time.MailDate -- a written date reads back as its second

A date in a header is a run of chunks with blanks between them.  Each reader takes the
chunk that it is for off the front of a text, whatever stands behind it (`number?_padded`,
`weekday?_nameAt`, `name?_nameAt` and their neighbours), so the readers together take a
written date apart into the fields that it was written from (`fields?_httpText`).  That
holds of the years that have four digits: a reader gives other meanings to years of two
or three digits and refuses a sign.

The fields of a second fit each other, the weekday among them, since the date of a day
has that day's number; so what is read is that very second: `read?_httpText`.
-/
import StaticPreview.Proofs.Text.Decimal
import StaticPreview.Proofs.Time.Calendar
import StaticPreview.Time.HttpDate
import StaticPreview.Time.MailDate

namespace StaticPreview.Text

/-! ## White space -/

theorem isBlank_of_isDigit {c : Char} (h : Decimal.isDigit c = true) : isBlank c = false := by
  simp only [Decimal.isDigit, Bool.and_eq_true, decide_eq_true_eq, Char.le_def,
    UInt32.le_iff_toNat_le] at h
  have low : 0x30 ≤ c.toNat := h.1
  have high : c.toNat ≤ 0x39 := h.2
  simp only [isBlank, Bool.or_eq_false_iff, Bool.and_eq_false_imp, decide_eq_true_eq,
    decide_eq_false_iff_not, beq_eq_false_iff_ne]
  omega

theorem trimStart_of_head? {s : List Char} (h : ∀ c ∈ s.head?, isBlank c = false) :
    trimStart s = s := by
  cases s with
  | nil => rfl
  | cons c r =>
      have full : isBlank c = false := h c rfl
      simp [trimStart, full]

/-- A text that neither begins nor ends with white space has none to be passed over. -/
theorem trim_of_ends {s : List Char} (front : ∀ c ∈ s.head?, isBlank c = false)
    (back : ∀ c ∈ s.getLast?, isBlank c = false) : trim s = s := by
  have reversed : trimStart s.reverse = s.reverse := by
    apply trimStart_of_head?
    rwa [List.head?_reverse]
  rw [trim, trimStart_of_head? front, trimEnd]
  exact (congrArg List.reverse reversed).trans (List.reverse_reverse s)

end StaticPreview.Text

namespace StaticPreview.Time

open StaticPreview.Text

/-- Every part of a time fits the places that it is written in. -/
structure DateTime.Fits (t : DateTime) : Prop where
  weekday : t.weekday < 7
  day : t.date.day < 100
  month : t.date.month - 1 < 12
  year_nonneg : 0 ≤ t.date.year
  year_le : t.date.year ≤ 9999
  hour : t.hour < 100
  minute : t.minute < 100
  second : t.second < 100

namespace MailDate

variable {rest : List Char}

/-! ## One chunk after another -/

theorem blanks?_blank (h : ∀ c ∈ rest.head?, isBlank c = false) :
    blanks? (' ' :: rest) = some rest := by
  have blank : isBlank ' ' = true := by decide
  rw [blanks?, if_pos blank, trimStart_of_head? h]

theorem char?_cons (c : Char) : char? c (c :: rest) = some rest := by
  rw [char?, if_pos rfl]

theorem takeWhile_padded (width n : Nat) (ends : ∀ c ∈ rest.head?, Decimal.isDigit c = false) :
    (Decimal.padded width n ++ rest).takeWhile Decimal.isDigit = Decimal.padded width n := by
  rw [List.takeWhile_append_of_pos fun c hc => Decimal.isDigit_of_mem_padded hc]
  cases rest with
  | nil => simp
  | cons c r =>
      have stop : Decimal.isDigit c = false := ends c rfl
      simp [stop]

/-- **A number of the greatest width is read as itself, whatever follows.** -/
theorem number?_padded {least width n : Nat} (positive : 0 < width) (fits : n < Nat.pow 10 width)
    (allowed : least ≤ width) :
    number? least width (Decimal.padded width n ++ rest) = some (n, rest) := by
  have length := Decimal.length_padded positive fits
  have front : (Decimal.padded width n ++ rest).take width = Decimal.padded width n := by
    rw [List.take_append_of_le_length (Nat.le_of_eq length.symm), List.take_of_length_le
      (Nat.le_of_eq length)]
  have digits : (Decimal.padded width n).takeWhile Decimal.isDigit = Decimal.padded width n := by
    have ends : ∀ c ∈ ([] : List Char).head?, Decimal.isDigit c = false := by simp
    simpa using takeWhile_padded width n ends
  have enough : ¬ (Decimal.padded width n).length < least := by omega
  simp only [number?, front, digits, if_neg enough, Decimal.value_padded, List.drop_left]

theorem longNumber?_padded {n : Nat} (fits : n < 10000)
    (ends : ∀ c ∈ rest.head?, Decimal.isDigit c = false) :
    longNumber? 2 (Decimal.padded 4 n ++ rest) = some (4, n, rest) := by
  have length : (Decimal.padded 4 n).length = 4 := Decimal.length_padded (by decide) fits
  have enough : ¬ (Decimal.padded 4 n).length < 2 := by omega
  simp only [longNumber?, takeWhile_padded 4 n ends, if_neg enough, Decimal.value_padded, List.drop_left]
  rw [length]

/-- The names of a table have three letters each and are told apart in any case. -/
def IsTable (names : List String) : Prop :=
  ∀ i, i < names.length → (nameAt names i).length = 3 ∧ (nameAt names i).any isBlank = false ∧
    (names.findIdx? fun name =>
      name.toList.map Char.toLower == (nameAt names i).map Char.toLower) = some i

theorem isTable_weekdayNames : IsTable weekdayNames := by
  unfold IsTable
  decide

theorem isTable_monthNames : IsTable monthNames := by
  unfold IsTable
  decide

/-- **A name of a table is read as its place, whatever follows.** -/
theorem name?_nameAt {names : List String} {i : Nat} (table : IsTable names)
    (h : i < names.length) : name? names (nameAt names i ++ rest) = some (i, rest) := by
  obtain ⟨three, -, first⟩ := table i h
  have front : (nameAt names i ++ rest).take 3 = nameAt names i := by
    rw [← three, List.take_left]
  have back : (nameAt names i ++ rest).drop 3 = rest := by
    rw [← three, List.drop_left]
  rw [name?, front, back, first]
  rfl

theorem weekday?_nameAt {i : Nat} (h : i < 7) :
    weekday? (nameAt weekdayNames i ++ ',' :: rest) = some (some i, rest) := by
  rw [weekday?, name?_nameAt isTable_weekdayNames h]
  simp [char?_cons]

theorem second?_two {n : Nat} (fits : n < 100) :
    second? (':' :: (two n ++ rest)) = some (n, rest) := by
  have start : trimStart (':' :: (two n ++ rest)) = ':' :: (two n ++ rest) :=
    trimStart_of_head? (by rintro c ⟨⟩; decide)
  rw [second?, start, char?_cons]
  exact number?_padded (by decide) fits (by decide)

/-! ## What a chunk begins with -/

theorem isBlank_of_head?_padded {width n : Nat} :
    ∀ c ∈ (Decimal.padded width n ++ rest).head?, isBlank c = false :=
  fun _ hc => isBlank_of_isDigit (Decimal.isDigit_of_head?_padded hc)

theorem isBlank_of_head?_nameAt {names : List String} {i : Nat} (table : IsTable names)
    (h : i < names.length) : ∀ c ∈ (nameAt names i ++ rest).head?, isBlank c = false := by
  obtain ⟨three, letters, -⟩ := table i h
  intro c hc
  cases written : nameAt names i with
  | nil =>
      rw [written] at three
      exact absurd three (by decide)
  | cons d r =>
      rw [written] at hc
      obtain rfl : d = c := Option.some.inj hc
      have member : d ∈ nameAt names i := by
        rw [written]
        exact List.mem_cons_self
      exact Bool.eq_false_iff.2 (List.any_eq_false.1 letters d member)

/-! ## The whole text -/

/-- A date whose year has four digits, chunk by chunk. -/
theorem httpText_eq {t : DateTime} (fits : t.Fits) :
    t.httpText = nameAt weekdayNames t.weekday ++ ',' :: ' ' :: (two t.date.day ++ ' ' ::
      (nameAt monthNames (t.date.month - 1) ++ ' ' :: (Decimal.padded 4 t.date.year.toNat ++ ' ' ::
        (two t.hour ++ ':' :: (two t.minute ++ ':' :: (two t.second ++ [' ', 'G', 'M', 'T'])))))) := by
  have year : yearText t.date.year = Decimal.padded 4 t.date.year.toNat :=
    if_pos ⟨fits.year_nonneg, fits.year_le⟩
  simp only [DateTime.httpText, DateTime.clockText, year, List.append_assoc, List.cons_append,
    List.nil_append]

/-- **A written date reads back as the fields that it was written from.** -/
theorem fields?_httpText {t : DateTime} (fits : t.Fits) :
    fields? t.httpText = some
      { weekday := some t.weekday, day := t.date.day, month := t.date.month - 1 + 1,
        year := t.date.year.toNat, hour := t.hour, minute := t.minute, second := t.second,
        zone := 0 } := by
  -- no reader passes over the beginning of the chunk that comes next
  have weekday (r : List Char) : trimStart (nameAt weekdayNames t.weekday ++ r) =
      nameAt weekdayNames t.weekday ++ r :=
    trimStart_of_head? (isBlank_of_head?_nameAt isTable_weekdayNames fits.weekday)
  have digits (n : Nat) (r : List Char) : trimStart (two n ++ r) = two n ++ r :=
    trimStart_of_head? isBlank_of_head?_padded
  have blank (n : Nat) (r : List Char) : trimStart (' ' :: (two n ++ r)) = two n ++ r :=
    digits n r
  have colon (r : List Char) : trimStart (':' :: r) = ':' :: r :=
    trimStart_of_head? (by rintro c ⟨⟩; decide)
  have month (r : List Char) : blanks? (' ' :: (nameAt monthNames (t.date.month - 1) ++ r)) =
      some (nameAt monthNames (t.date.month - 1) ++ r) :=
    blanks?_blank (isBlank_of_head?_nameAt isTable_monthNames fits.month)
  have number (width n : Nat) (r : List Char) :
      blanks? (' ' :: (Decimal.padded width n ++ r)) = some (Decimal.padded width n ++ r) :=
    blanks?_blank isBlank_of_head?_padded
  have hour (r : List Char) : blanks? (' ' :: (two t.hour ++ r)) = some (two t.hour ++ r) :=
    number 2 t.hour r
  have zone : blanks? [' ', 'G', 'M', 'T'] = some ['G', 'M', 'T'] := by decide
  -- and each takes its own chunk
  have pair {n least : Nat} (small : n < 100) (allowed : least ≤ 2) (r : List Char) :
      number? least 2 (two n ++ r) = some (n, r) := number?_padded (by decide) small allowed
  have year (r : List Char) : longNumber? 2 (Decimal.padded 4 t.date.year.toNat ++ ' ' :: r) =
      some (4, t.date.year.toNat, ' ' :: r) := by
    have low := fits.year_nonneg
    have high := fits.year_le
    exact longNumber?_padded (by omega) (by rintro c ⟨⟩; decide)
  have gmt : zone? ['G', 'M', 'T'] = some (0, []) := by decide
  have comments : dropComments [] = [] := by
    rw [dropComments]
    rfl
  rw [httpText_eq fits, fields?, weekday, weekday?_nameAt fits.weekday]
  simp only [Option.bind_eq_bind, Option.bind_some, blank, pair fits.day (by decide : 1 ≤ 2), month,
    name?_nameAt isTable_monthNames fits.month, number, year, hour,
    pair fits.hour (by decide : 2 ≤ 2), colon, char?_cons, digits, pair fits.minute (by decide : 2 ≤ 2),
    second?_two fits.second, zone, gmt, comments, if_true]
  rfl

/-! ## A second and back -/

theorem length_month_le {leap : Bool} {i length : Nat}
    (h : (Date.monthLengths leap)[i]? = some length) : length ≤ 31 := by
  have all : ∀ leap, ∀ length ∈ Date.monthLengths leap, length ≤ 31 := by decide
  exact all leap length (List.mem_of_getElem? h)

/-- **Every second of the years 0 to 9999 fits the places of a date.** -/
theorem fits_ofSeconds {s : Int} (low : 0 ≤ (DateTime.ofSeconds s).date.year)
    (high : (DateTime.ofSeconds s).date.year ≤ 9999) : (DateTime.ofSeconds s).Fits := by
  obtain ⟨i, length, found, d, inside, month, day, -⟩ := Date.exists_month_ofNumber (s / 86400)
  have short := length_month_le found
  have twelve : i < 12 := (List.getElem?_eq_some_iff.1 found).1
  have hour := DateTime.hour_ofSeconds_lt s
  have minute := DateTime.minute_ofSeconds_lt s
  have second := DateTime.second_ofSeconds_lt s
  refine ⟨Date.weekdayOf_lt _, ?_, ?_, low, high, by omega, by omega, by omega⟩
  · change (Date.ofNumber (s / 86400)).day < 100
    omega
  · change (Date.ofNumber (s / 86400)).month - 1 < 12
    omega

theorem trim_httpText {t : DateTime} (fits : t.Fits) : trim t.httpText = t.httpText := by
  apply trim_of_ends
  · rw [httpText_eq fits]
    exact isBlank_of_head?_nameAt isTable_weekdayNames fits.weekday
  · intro c hc
    have last : t.httpText.getLast? = some 'T' := by
      rw [DateTime.httpText, List.getLast?_append]
      rfl
    rw [last] at hc
    obtain rfl : 'T' = c := Option.some.inj hc
    decide

/-- **A written date reads back as the second that it was written for**, if its year is
one of those that have four digits. -/
theorem read?_httpText {s : Int} (low : 0 ≤ (DateTime.ofSeconds s).date.year)
    (high : (DateTime.ofSeconds s).date.year ≤ 9999) :
    read? (DateTime.ofSeconds s).httpText = some { seconds := s, leap := false } := by
  have fits := fits_ofSeconds low high
  have valid : (DateTime.ofSeconds s).date.Valid := Date.valid_ofNumber _
  have whole := DateTime.seconds_ofSeconds s
  have hour := DateTime.hour_ofSeconds_lt s
  have minute := DateTime.minute_ofSeconds_lt s
  have second := DateTime.second_ofSeconds_lt s
  have number : (DateTime.ofSeconds s).date.number = s / 86400 := Date.number_ofNumber _
  have year : (((DateTime.ofSeconds s).date.year.toNat : Nat) : Int) =
      (DateTime.ofSeconds s).date.year := Int.toNat_of_nonneg low
  have month : (DateTime.ofSeconds s).date.month - 1 + 1 = (DateTime.ofSeconds s).date.month :=
    Nat.sub_add_cancel valid.1
  have calendar : inCalendar s = true := (inCalendar_iff s).2 (by unfold firstYear lastYear; omega)
  have noLeap : ¬ (DateTime.ofSeconds s).second = 60 := by omega
  rw [read?, trim_httpText fits, fields?_httpText fits, Option.bind_some, Fields.toReading?]
  simp only [year, month, noLeap, if_false, whole, Int.sub_zero, decide_false]
  rw [if_pos]
  refine ⟨valid, ?_, hour, minute, by omega, by decide, ?_, calendar⟩
  · unfold lastYear
    omega
  · rw [number]
    simp [DateTime.ofSeconds]

end MailDate

end StaticPreview.Time
