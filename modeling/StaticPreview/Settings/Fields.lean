/-
# StaticPreview.Settings.Fields -- names with what stands under them

Fields keep the order in which they came.  One of them is changed in its place, and
a new one is put behind the others (`lookup_put_self`, `lookup_put_of_ne`).
-/
namespace StaticPreview.Settings

/-- Names, each with what stands under it; of a repeated name the first counts. -/
abbrev Fields (α : Type) := List (String × α)

namespace Fields

variable {α : Type}

/-- Fields with one of them changed, or put behind them when it is missing. -/
def put (key : String) (f : Option α → α) : Fields α → Fields α
  | [] => [(key, f none)]
  | (k, v) :: rest => if k = key then (k, f (some v)) :: rest else (k, v) :: put key f rest

/-- Fields with one of them replaced, or put behind them when it is missing. -/
def set (key : String) (value : α) (fields : Fields α) : Fields α :=
  put key (fun _ => value) fields

/-- Fields of a list in which the last of a repeated name counts. -/
def ofList (entries : List (String × α)) : Fields α :=
  entries.foldl (fun fields entry => set entry.1 entry.2 fields) []

/-- **A field that was changed holds what it was changed to.** -/
theorem lookup_put_self (key : String) (f : Option α → α) (fields : Fields α) :
    (put key f fields).lookup key = some (f (fields.lookup key)) := by
  induction fields with
  | nil => simp [put]
  | cons x xs ih =>
      obtain ⟨k, v⟩ := x
      by_cases h : k = key
      · simp [put, h]
      · have hb : (key == k) = false := by simpa using Ne.symm h
        simp [put, h, List.lookup_cons, hb, ih]

/-- **Changing a field leaves all others as they are.** -/
theorem lookup_put_of_ne {key other : String} (h : other ≠ key) (f : Option α → α)
    (fields : Fields α) : (put key f fields).lookup other = fields.lookup other := by
  have hb : (other == key) = false := by simpa using h
  induction fields with
  | nil => simp [put, List.lookup_cons, hb]
  | cons x xs ih =>
      obtain ⟨k, v⟩ := x
      by_cases hk : k = key
      · subst hk
        simp [put, List.lookup_cons, hb]
      · simp only [put, hk, if_false, List.lookup_cons, ih]

end Fields

end StaticPreview.Settings
