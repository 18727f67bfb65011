/-
# StaticPreview.Proofs.Settings.Value -- values as trees

Values can be compared, so that what a source says can be checked against what it is
expected to say.  A change to a table is seen under its key and nowhere else
(`get?_put_self`, `get?_put_of_ne`), and noting where the fields of a source come from is
done to each of them by itself (`fieldsWithOrigin_eq_map`).
-/
import StaticPreview.Settings.Value

namespace StaticPreview.Settings.Value

/-! ## Comparison -/

mutual

/-- Whether two values are the same. -/
def decEq : (v w : Value) → Decidable (v = w)
  | .scalar origin s, .scalar origin' s' =>
      decidable_of_iff (origin = origin' ∧ s = s') (by simp)
  | .sequence origin items, .sequence origin' items' =>
      have := decEqItems items items'
      decidable_of_iff (origin = origin' ∧ items = items') (by simp)
  | .table origin fields, .table origin' fields' =>
      have := decEqFields fields fields'
      decidable_of_iff (origin = origin' ∧ fields = fields') (by simp)
  | .scalar .., .sequence .. | .scalar .., .table .. | .sequence .., .scalar ..
  | .sequence .., .table .. | .table .., .scalar .. | .table .., .sequence .. =>
      isFalse (by simp)

/-- Whether two lists of values are the same. -/
def decEqItems : (vs ws : List Value) → Decidable (vs = ws)
  | [], [] => isTrue rfl
  | v :: vs, w :: ws =>
      have := decEq v w
      have := decEqItems vs ws
      decidable_of_iff (v = w ∧ vs = ws) (by simp)
  | [], _ :: _ | _ :: _, [] => isFalse (by simp)

/-- Whether two lists of fields are the same. -/
def decEqFields : (fields others : List (String × Value)) → Decidable (fields = others)
  | [], [] => isTrue rfl
  | (k, v) :: fields, (k', v') :: others =>
      have := decEq v v'
      have := decEqFields fields others
      decidable_of_iff ((k = k' ∧ v = v') ∧ fields = others) (by simp)
  | [], _ :: _ | _ :: _, [] => isFalse (by simp)

end

instance : DecidableEq Value := decEq

/-! ## Tables -/

theorem get?_put_self (v : Value) (key : String) (f : Option Value → Value) :
    (v.put key f).get? key = some (f (v.get? key)) := by
  cases v with
  | table origin fields => exact Fields.lookup_put_self key f fields
  | scalar | sequence => exact Fields.lookup_put_self key f []

theorem get?_put_of_ne {key other : String} (apart : other ≠ key) (v : Value)
    (f : Option Value → Value) : (v.put key f).get? other = v.get? other := by
  cases v with
  | table origin fields => exact Fields.lookup_put_of_ne apart f fields
  | scalar | sequence => exact Fields.lookup_put_of_ne apart f []

/-! ## Origins -/

theorem fieldsWithOrigin_eq_map (origin : String) (fields : Fields Value) :
    fieldsWithOrigin origin fields = fields.map fun x => (x.1, x.2.withOrigin origin) := by
  induction fields with
  | nil => rfl
  | cons x fields ih => rw [fieldsWithOrigin, ih, List.map_cons]

end StaticPreview.Settings.Value
