/-
# StaticPreview.Proofs.Freshness -- a copy is as old as the date that came with it

The date of an instant is a visible text (`isVisible_of_httpDate`), so a client can send
it back as it got it.  Read again it is the second that the instant belongs to, the
fraction rounded down before 1970 too; so a copy that came with the date of one instant is
current for a file of another exactly when the second of the file is not the later one:
`current_httpDate`.
-/
import StaticPreview.Freshness
import StaticPreview.Proofs.Header.Visible
import StaticPreview.Proofs.Time.MailDate

namespace StaticPreview

open StaticPreview.Text
open Time

namespace Time

/-! ## The date of an instant -/

/-- The year of an instant in UTC. -/
def Instant.year (t : Instant) : Int := (DateTime.ofSeconds t.seconds).date.year

/-- Nanoseconds since the start of 1970. -/
def Instant.nanoseconds (t : Instant) : Int := t.seconds * 1000000000 + t.nanos

/-- The second of an instant is its time rounded down. -/
theorem Instant.nanoseconds_ediv (t : Instant) : t.nanoseconds / 1000000000 = t.seconds := by
  have fraction := t.nanos_lt
  unfold Instant.nanoseconds
  omega

theorem Instant.httpDate_eq (t : Instant) :
    t.httpDate =
      if inCalendar t.seconds then .ok (String.ofList (DateTime.ofSeconds t.seconds).httpText)
      else .error ⟨t⟩ := by
  unfold Instant.httpDate Instant.toDateTime
  split <;> rfl

theorem Instant.exists_httpDate {t : Instant} (calendar : inCalendar t.seconds = true) :
    ∃ date, t.httpDate = .ok date := by
  rw [Instant.httpDate_eq, if_pos calendar]
  exact ⟨_, rfl⟩

/-- What has a date is in the calendar, and this is its date. -/
theorem Instant.of_httpDate {t : Instant} {date : String} (h : t.httpDate = .ok date) :
    inCalendar t.seconds = true ∧ date.toList = (DateTime.ofSeconds t.seconds).httpText := by
  rw [Instant.httpDate_eq] at h
  split at h
  · rename_i calendar
    rw [← Except.ok.inj h, String.toList_ofList]
    exact ⟨calendar, rfl⟩
  · cases h

theorem isVisible_of_isDigit {s : List Char} (h : ∀ c ∈ s, Decimal.isDigit c = true) :
    Header.isVisible s = true := by
  rw [Header.isVisible, List.all_eq_true]
  intro c member
  have digit := h c member
  simp only [Decimal.isDigit, Bool.and_eq_true, decide_eq_true_eq, Char.le_def] at digit
  have low : (0x30 : Nat) ≤ c.toNat := digit.1
  have high : c.toNat ≤ 0x39 := digit.2
  simp only [Header.isVisibleChar, Bool.and_eq_true, decide_eq_true_eq]
  omega

theorem isVisible_padded (width n : Nat) : Header.isVisible (Decimal.padded width n) = true :=
  isVisible_of_isDigit fun _ => Decimal.isDigit_of_mem_padded

theorem isVisible_yearText (year : Int) : Header.isVisible (yearText year) = true := by
  unfold yearText
  split
  · exact isVisible_padded 4 _
  · rw [Header.isVisible_cons, isVisible_padded, Bool.and_true]
    split <;> decide

/-- The names that dates are written with are visible, and so is what stands for none. -/
theorem isVisible_nameAt {names : List String}
    (visible : ∀ name ∈ names, Header.isVisible name.toList = true) (i : Nat) :
    Header.isVisible (nameAt names i) = true := by
  unfold nameAt
  cases found : names[i]? with
  | none => rfl
  | some name => exact visible name (List.mem_of_getElem? found)

theorem isVisible_clockText (t : DateTime) : Header.isVisible t.clockText = true := by
  have pair (n : Nat) : Header.isVisible (two n) = true := isVisible_padded 2 n
  have colon : Header.isVisibleChar ':' = true := by decide
  simp only [DateTime.clockText, Header.isVisible_append, Header.isVisible_cons, pair, colon,
    Bool.and_self]

/-- **Every date is visible**, of whatever year. -/
theorem isVisible_httpText (t : DateTime) : Header.isVisible t.httpText = true := by
  have weekday : Header.isVisible (nameAt weekdayNames t.weekday) = true :=
    isVisible_nameAt (by decide) _
  have month : Header.isVisible (nameAt monthNames (t.date.month - 1)) = true :=
    isVisible_nameAt (by decide) _
  have pair (n : Nat) : Header.isVisible (two n) = true := isVisible_padded 2 n
  have blank : Header.isVisibleChar ' ' = true := by decide
  have comma : Header.isVisibleChar ',' = true := by decide
  have zone : Header.isVisible ['G', 'M', 'T'] = true := by decide
  have nothing : Header.isVisible [] = true := rfl
  simp only [DateTime.httpText, Header.isVisible_append, Header.isVisible_cons, weekday, month,
    pair, isVisible_yearText, isVisible_clockText, blank, comma, zone, nothing, Bool.and_self]

theorem isVisible_of_httpDate {t : Instant} {date : String} (h : t.httpDate = .ok date) :
    Header.isVisible date.toList = true := by
  rw [(Instant.of_httpDate h).2]
  exact isVisible_httpText _

end Time

namespace Conditions

variable {c : Conditions} {t : Instant}

/-! ## Whether a copy is current -/

theorem current_of_modifiedSince_eq_none (h : c.modifiedSince = none) : c.current t = .ok false := by
  unfold current
  split
  · rfl
  · rw [h]
    rfl

theorem exists_current (calendar : inCalendar t.seconds = true) (c : Conditions) :
    ∃ b, c.current t = .ok b := by
  unfold current
  split
  · exact ⟨_, rfl⟩
  · split
    · exact ⟨_, rfl⟩
    · exact ⟨_, rfl⟩

/-- **A copy is current exactly when the second of the file is not later** than that of
the instant whose date the client sends. -/
theorem current_httpDate {t₁ t₂ : Instant} {date : String} (h : t₁.httpDate = .ok date)
    (low : 0 ≤ t₁.year) (high : t₁.year ≤ 9999) (calendar : inCalendar t₂.seconds = true) :
    current { modifiedSince := some date } t₂ = .ok (decide (t₂.seconds ≤ t₁.seconds)) := by
  have read : MailDate.read? date.toList = some { seconds := t₁.seconds, leap := false } := by
    rw [(Instant.of_httpDate h).2]
    exact MailDate.read?_httpText low high
  simp [current, read, calendar]

end Conditions

end StaticPreview
