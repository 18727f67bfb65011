/-
# StaticPreview.Proofs.Time.Calendar -- every day has a date, and its number back

Finding the date of a day takes three steps: out of the cycles of 400 years, then a
year of the cycle, then a month of the year.  What each of them leaves is the number
of days behind the beginning of what it found: `daysBeforeYear_add_cycles`,
`year_ofNumber`, `locate_eq`.  Together they say that the date is one that the calendar
has (`valid_ofNumber`) and that it has the number it was found by (`number_ofNumber`).

A time of day comes apart into hours, minutes and seconds in the same way
(`seconds_ofSeconds`), and the seconds that dates are written for are those of the years
that dates are written with: `inCalendar_iff`.
-/
import StaticPreview.Time.Instant

namespace StaticPreview.Time

namespace Date

/-- The days of several months together. -/
def daysOf (lengths : List Nat) : Nat := lengths.foldl (· + ·) 0

@[simp] theorem daysOf_nil : daysOf [] = 0 := rfl

/-! ## Years -/

/-- A cycle of 400 years has a fixed number of days. -/
theorem daysBeforeYear_add_cycles (cycles year : Int) :
    daysBeforeYear (cycles * 400 + year) = cycles * 146097 + daysBeforeYear year := by
  unfold daysBeforeYear
  omega

/-- A year is as long as its months are together. -/
theorem daysBeforeYear_succ (year : Int) :
    daysBeforeYear (year + 1) = daysBeforeYear year + daysOf (monthLengths (isLeap year)) := by
  have long : (daysOf (monthLengths (isLeap year)) : Int) = if isLeap year then 366 else 365 := by
    cases isLeap year <;> rfl
  rw [long]
  by_cases leap : isLeap year = true
  · rw [if_pos leap]
    simp only [isLeap, Bool.and_eq_true, Bool.or_eq_true, beq_iff_eq, bne_iff_ne] at leap
    unfold daysBeforeYear
    omega
  · rw [if_neg leap]
    simp only [isLeap, Bool.and_eq_true, Bool.or_eq_true, beq_iff_eq, bne_iff_ne] at leap
    unfold daysBeforeYear
    omega

theorem daysBeforeYear_mono {a b : Int} (h : a ≤ b) : daysBeforeYear a ≤ daysBeforeYear b := by
  unfold daysBeforeYear
  omega

/-- Of the years of a cycle, the quotient by 366 starts early enough, and two years later
it is too late. -/
theorem daysBeforeYear_div {rest : Int} (low : 0 ≤ rest) (high : rest < 146097) :
    daysBeforeYear (rest / 366) ≤ rest ∧ rest < daysBeforeYear (rest / 366 + 1 + 1) := by
  unfold daysBeforeYear
  omega

/-- **A day lies in the year that is found for it.** -/
theorem year_ofNumber (n : Int) :
    daysBeforeYear (ofNumber n).year ≤ n + epochDays ∧
      n + epochDays < daysBeforeYear ((ofNumber n).year + 1) := by
  have low : 0 ≤ (n + epochDays) % 146097 := by omega
  have high : (n + epochDays) % 146097 < 146097 := by omega
  obtain ⟨early, late⟩ := daysBeforeYear_div low high
  have whole := Int.mul_ediv_add_emod (n + epochDays) 146097
  simp only [ofNumber, Int.add_assoc]
  rw [daysBeforeYear_add_cycles, daysBeforeYear_add_cycles]
  by_cases next : daysBeforeYear ((n + epochDays) % 146097 / 366 + 1) ≤ (n + epochDays) % 146097
  · rw [if_pos next]
    omega
  · rw [if_neg next]
    omega

/-! ## Months -/

theorem foldl_add (lengths : List Nat) (n : Nat) :
    lengths.foldl (· + ·) n = n + daysOf lengths := by
  induction lengths generalizing n with
  | nil => rfl
  | cons length lengths ih =>
      have together : daysOf (length :: lengths) = length + daysOf lengths := by
        rw [daysOf, List.foldl_cons, ih, Nat.zero_add]
      rw [List.foldl_cons, ih, together, Nat.add_assoc]

theorem daysOf_cons (length : Nat) (lengths : List Nat) :
    daysOf (length :: lengths) = length + daysOf lengths := by
  rw [daysOf, List.foldl_cons, foldl_add, Nat.zero_add]

theorem daysBeforeMonth_eq (leap : Bool) (month : Nat) :
    daysBeforeMonth leap month = daysOf ((monthLengths leap).take (month - 1)) := rfl

/-- **A day that the months have lies in the month that is found for it.** -/
theorem locate_eq {lengths : List Nat} {rest : Nat} (month : Nat) (inside : rest < daysOf lengths) :
    ∃ i length, lengths[i]? = some length ∧ daysOf (lengths.take i) ≤ rest ∧
      rest < daysOf (lengths.take i) + length ∧
      locate month rest lengths = (month + i, rest - daysOf (lengths.take i) + 1) := by
  induction lengths generalizing month rest with
  | nil => simp at inside
  | cons length lengths ih =>
      by_cases here : rest < length
      · exact ⟨0, length, rfl, by simp, by simpa using here, by simp [locate, here]⟩
      · rw [daysOf_cons] at inside
        have later : rest - length < daysOf lengths := by omega
        obtain ⟨i, last, found, start, stop, place⟩ := ih (month + 1) later
        refine ⟨i + 1, last, by simpa using found, ?_, ?_, ?_⟩
        · rw [List.take_succ_cons, daysOf_cons]
          omega
        · rw [List.take_succ_cons, daysOf_cons]
          omega
        · rw [locate, if_neg here, place, List.take_succ_cons, daysOf_cons, Prod.mk.injEq]
          omega

/-- The day of its year that a date is, and the month and the day that are found for it. -/
theorem exists_month_ofNumber (n : Int) :
    ∃ i length, (monthLengths (isLeap (ofNumber n).year))[i]? = some length ∧
      ∃ d, d < length ∧ (ofNumber n).month = i + 1 ∧ (ofNumber n).day = d + 1 ∧
        n + epochDays = daysBeforeYear (ofNumber n).year +
          (daysOf ((monthLengths (isLeap (ofNumber n).year)).take i) + d : Nat) := by
  obtain ⟨low, high⟩ := year_ofNumber n
  have whole := Int.mul_ediv_add_emod (n + epochDays) 146097
  have length := daysBeforeYear_succ (ofNumber n).year
  -- what is left of the cycle behind the beginning of the year is what is left of all days
  obtain ⟨inCycle, year, rest⟩ : ∃ inCycle,
      (ofNumber n).year = (n + epochDays) / 146097 * 400 + inCycle ∧
        ((ofNumber n).month, (ofNumber n).day) =
          locate 1 ((n + epochDays) % 146097 - daysBeforeYear inCycle).toNat
            (monthLengths (isLeap (ofNumber n).year)) := ⟨_, rfl, rfl⟩
  have cycles := daysBeforeYear_add_cycles ((n + epochDays) / 146097) inCycle
  rw [← year] at cycles
  have inside : ((n + epochDays) % 146097 - daysBeforeYear inCycle).toNat <
      daysOf (monthLengths (isLeap (ofNumber n).year)) := by
    omega
  obtain ⟨i, days, found, start, stop, place⟩ := locate_eq 1 inside
  rw [place, Prod.mk.injEq] at rest
  obtain ⟨month, day⟩ := rest
  refine ⟨i, days, found, _, ?_, month.trans (Nat.add_comm 1 i), day, ?_⟩
  · omega
  · omega

/-- **The date that is found for a day is one that the calendar has.** -/
theorem valid_ofNumber (n : Int) : (ofNumber n).Valid := by
  obtain ⟨i, length, found, d, inside, month, day, -⟩ := exists_month_ofNumber n
  have twelve : i < 12 := by
    obtain ⟨bound, -⟩ := List.getElem?_eq_some_iff.1 found
    exact bound
  refine ⟨by omega, by omega, by omega, ?_⟩
  rw [month, Nat.add_sub_cancel, found, day]
  exact inside

/-- **The date that is found for a day has its number.** -/
theorem number_ofNumber (n : Int) : (ofNumber n).number = n := by
  obtain ⟨i, length, -, d, -, month, day, whole⟩ := exists_month_ofNumber n
  rw [number, daysBeforeMonth_eq, month, day, Nat.add_sub_cancel]
  omega

theorem weekdayOf_lt (n : Int) : weekdayOf n < 7 := by
  unfold weekdayOf
  omega

end Date

namespace DateTime

/-! ## Times of day -/

/-- **A second comes together again from its date and its time of day.** -/
theorem seconds_ofSeconds (s : Int) :
    (ofSeconds s).date.number * 86400 +
      (((ofSeconds s).hour * 3600 + (ofSeconds s).minute * 60 + (ofSeconds s).second : Nat) : Int) =
        s := by
  have day : (ofSeconds s).date.number = s / 86400 := Date.number_ofNumber _
  rw [day]
  simp only [ofSeconds]
  omega

theorem hour_ofSeconds_lt (s : Int) : (ofSeconds s).hour < 24 := by
  simp only [ofSeconds]
  omega

theorem minute_ofSeconds_lt (s : Int) : (ofSeconds s).minute < 60 := by
  simp only [ofSeconds]
  omega

theorem second_ofSeconds_lt (s : Int) : (ofSeconds s).second < 60 := by
  simp only [ofSeconds]
  omega

end DateTime

/-- **A second has a date exactly when its year is one that is written.** -/
theorem inCalendar_iff (s : Int) :
    inCalendar s = true ↔
      firstYear ≤ (DateTime.ofSeconds s).date.year ∧ (DateTime.ofSeconds s).date.year ≤ lastYear := by
  obtain ⟨start, stop⟩ : Date.daysBeforeYear (DateTime.ofSeconds s).date.year ≤
        s / 86400 + Date.epochDays ∧
      s / 86400 + Date.epochDays < Date.daysBeforeYear ((DateTime.ofSeconds s).date.year + 1) :=
    Date.year_ofNumber (s / 86400)
  rw [inCalendar, Bool.and_eq_true, decide_eq_true_eq, decide_eq_true_eq, firstSecond, lastSecond]
  constructor
  · rintro ⟨low, high⟩
    refine ⟨?_, ?_⟩
    · refine Int.not_lt.1 fun before => ?_
      have earlier := Date.daysBeforeYear_mono (Int.add_one_le_of_lt before)
      omega
    · refine Int.not_lt.1 fun after => ?_
      have later := Date.daysBeforeYear_mono (Int.add_one_le_of_lt after)
      omega
  · rintro ⟨low, high⟩
    have first := Date.daysBeforeYear_mono low
    have last := Date.daysBeforeYear_mono (Int.add_le_add_right high 1)
    omega

end StaticPreview.Time
