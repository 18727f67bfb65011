/-
# StaticPreview.Proofs.AccessLine -- an entry of the access log is one line

Nothing breaks the line of an entry whose texts have no line end in them
(`AccessEntry.Unbroken`): times and numbers, which are made here, are written with digits,
letters and a few signs, so the common and the combined format add none (`not_mem_common`,
`not_mem_combined`).  A JSON string has every control escaped, so a line in that format is
whole whatever the entry holds (`not_mem_json`), and has no other control in it either
(`clear_json`).
-/
import StaticPreview.AccessLine
import StaticPreview.Proofs.Address

namespace StaticPreview

open StaticPreview.Text
open Time

/-! ## Visible parts -/

/-- A visible text has no line end in it. -/
theorem Header.not_mem_of_isVisible {s : List Char} (visible : isVisible s = true) : '\n' ∉ s := by
  intro member
  have bounds := toNat_of_isVisible visible member
  exact absurd bounds.1 (by decide)

namespace Time.Stamp

/-- Whether a character may stand in a time of the common log format. -/
def isLogChar (c : Char) : Bool :=
  Decimal.isDigit c || c.isAlpha || ['/', ':', ' ', '+', '-'].contains c

theorem all_padded (width n : Nat) : (Decimal.padded width n).all isLogChar = true := by
  rw [List.all_eq_true]
  intro c member
  rw [isLogChar, Decimal.isDigit_of_mem_padded member, Bool.true_or, Bool.true_or]

theorem all_yearText (year : Int) : (yearText year).all isLogChar = true := by
  unfold yearText
  split
  · exact all_padded 4 _
  · rw [List.all_cons, all_padded, Bool.and_true]
    split <;> decide

theorem all_month (i : Nat) : (nameAt monthNames i).all isLogChar = true := by
  unfold nameAt
  cases found : monthNames[i]? with
  | none => rfl
  | some name =>
      have all : ∀ name ∈ monthNames, name.toList.all isLogChar = true := by decide
      exact all name (List.mem_of_getElem? found)

/-- **A time is written with digits and letters, and a few signs.** -/
theorem all_logText (s : Stamp) : s.logText.all isLogChar = true := by
  have pair (n : Nat) : (two n).all isLogChar = true := all_padded 2 n
  have sign : isLogChar (if s.offset < 0 then '-' else '+') = true := by
    split <;> decide
  have solidus : isLogChar '/' = true := by decide
  have colon : isLogChar ':' = true := by decide
  have blank : isLogChar ' ' = true := by decide
  simp only [logText, zoneText, DateTime.clockText, List.all_append, List.all_cons, List.all_nil,
    all_month, pair, all_yearText, sign, solidus, colon, blank, Bool.and_self]

theorem not_mem_logText (s : Stamp) {c : Char} (other : isLogChar c = false) : c ∉ s.logText := by
  intro member
  rw [List.all_eq_true.1 s.all_logText c member] at other
  cases other

end Time.Stamp

/-! ## JSON strings -/

namespace Text.JsonString

/-- Whether a character is one of the controls that JSON does not have in a text as they are. -/
def isControl (c : Char) : Bool := c.toNat < 0x20

/-- Characters of which none is a control. -/
def isClear (s : List Char) : Bool := s.all fun c => !isControl c

theorem isClear_escape (c : Char) : isClear (escape c) = true := by
  have digit : ∀ n, n < 16 → isControl (hexDigit n) = false := by decide
  unfold escape
  split
  · rfl
  split
  · rfl
  split
  · rename_i control
    repeat' split
    all_goals try rfl
    have high := digit (c.toNat / 16) (by omega)
    have low := digit (c.toNat % 16) (by omega)
    rw [isClear, List.all_cons, List.all_cons, List.all_cons, List.all_cons, List.all_cons,
      List.all_cons, high, low]
    rfl
  · rename_i plain
    have clear : isControl c = false := decide_eq_false plain
    rw [isClear, List.all_cons, clear]
    rfl

/-- **No JSON string has a control in it**, whatever the text. -/
theorem isClear_write (s : List Char) : isClear (write s) = true := by
  have inside : (s.flatMap escape).all (fun c => !isControl c) = true := by
    rw [List.all_eq_true]
    intro d member
    obtain ⟨c, -, listed⟩ := List.mem_flatMap.1 member
    exact List.all_eq_true.1 (isClear_escape c) d listed
  rw [isClear, write, List.cons_append, List.all_cons, List.all_append, inside]
  rfl

/-- A text without controls. -/
def Clear (s : String) : Prop := isClear s.toList = true

theorem Clear.append {s t : String} (front : Clear s) (back : Clear t) : Clear (s ++ t) := by
  unfold Clear isClear at front back ⊢
  rw [String.toList_append, List.all_append, front, back]
  rfl

theorem Clear.intercalate {sep : String} {parts : List String} (between : Clear sep)
    (inside : ∀ part ∈ parts, Clear part) : Clear (sep.intercalate parts) := by
  induction parts with
  | nil => rfl
  | cons part parts ih =>
      have first := inside part List.mem_cons_self
      have rest := ih fun p member => inside p (List.mem_cons_of_mem _ member)
      cases parts with
      | nil => simpa using first
      | cons next parts =>
          rw [String.intercalate_cons_cons]
          exact (first.append between).append rest

end Text.JsonString

/-! ## Lines -/

namespace AccessEntry

/-- An entry whose texts have no line end in them. -/
structure Unbroken (e : AccessEntry) : Prop where
  remoteAddr : '\n' ∉ e.remoteAddr.toList
  method : '\n' ∉ e.method.toList
  requestUri : '\n' ∉ e.requestUri.toList
  httpVersion : '\n' ∉ e.httpVersion.toList
  referer : '\n' ∉ (e.referer.getD "-").toList
  userAgent : '\n' ∉ (e.userAgent.getD "-").toList

variable {e : AccessEntry}

theorem not_mem_decimal (n : Nat) : '\n' ∉ (decimal n).toList := by
  rw [decimal, String.toList_ofList]
  exact Header.not_mem_of_isVisible (Decimal.isVisible_digits n)

theorem not_mem_common (unbroken : e.Unbroken) : '\n' ∉ e.common.toList := by
  have time : '\n' ∉ e.timeLocal.toList := by
    rw [timeLocal, String.toList_ofList]
    exact Stamp.not_mem_logText _ (by decide)
  simp [common, requestLine, unbroken.remoteAddr, unbroken.method, unbroken.requestUri,
    unbroken.httpVersion, time, not_mem_decimal]

theorem not_mem_combined (unbroken : e.Unbroken) : '\n' ∉ e.combined.toList := by
  have front := not_mem_common unbroken
  simp [combined, front, unbroken.referer, unbroken.userAgent]

open JsonString (Clear isClear isControl)

theorem clear_decimal (n : Nat) : Clear (decimal n) := by
  rw [Clear, decimal, String.toList_ofList, isClear, List.all_eq_true]
  intro c member
  have bounds := Header.toNat_of_isVisible (Decimal.isVisible_digits n) member
  have plain : isControl c = false := decide_eq_false (by omega)
  rw [plain]
  rfl

theorem clear_jsonText (s : String) : Clear (jsonText s) := by
  rw [Clear, jsonText, String.toList_ofList]
  exact JsonString.isClear_write s.toList

theorem clear_jsonOption (s : Option String) : Clear (jsonOption s) := by
  cases s with
  | none => rfl
  | some s => exact clear_jsonText s

/-- **A line in JSON has no control in it, whatever the entry holds.** -/
theorem clear_json (e : AccessEntry) : Clear e.json := by
  have sign : Clear "\x7b" ∧ Clear "\x7d" ∧ Clear "," ∧ Clear ":" := ⟨rfl, rfl, rfl, rfl⟩
  have values : ∀ field ∈ e.jsonFields, Clear field.2 := by
    simp [jsonFields, clear_decimal, clear_jsonText, clear_jsonOption]
  obtain ⟨front, back, comma, colon⟩ := sign
  refine (front.append (comma.intercalate ?_)).append back
  intro part member
  obtain ⟨field, listed, rfl⟩ := List.mem_map.1 member
  exact ((clear_jsonText field.1).append colon).append (values field listed)

/-- So it is whole. -/
theorem not_mem_json (e : AccessEntry) : '\n' ∉ e.json.toList := by
  intro member
  exact absurd (List.all_eq_true.1 (clear_json e) _ member) (by decide)

/-- The formats that are no patterns. -/
def standardFormats : List String := ["common", "combined", "json"]

/-- **In each of the formats an entry is one line.** -/
theorem not_mem_line (unbroken : e.Unbroken) {format : String}
    (standard : format ∈ standardFormats) :
    '\n' ∉ (e.line format).toList := by
  simp only [standardFormats, List.mem_cons, List.not_mem_nil, or_false] at standard
  rcases standard with rfl | rfl | rfl
  · exact not_mem_common unbroken
  · exact not_mem_combined unbroken
  · exact not_mem_json e

end AccessEntry

end StaticPreview
