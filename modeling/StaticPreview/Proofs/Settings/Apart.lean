/-
# StaticPreview.Proofs.Settings.Apart -- trees that differ in one setting

A field of a source concerns a setting when putting it into a tree may change what stands
there for the setting (`concerns`): it names the setting or something in it, or its whole
section.  Two trees that differ in one setting only (`ApartAt`) still do so after any field
that does not concern it (`apartAt_set`), and so after a whole source of such fields
(`apartAt_setAll`).  A tree compared with itself keeps what stands there for the setting
(`leaf?_setAll_of_silent`).

Trees that differ in one setting are taken for settings that differ in it: when one of them
can be used and the value in the other one can be taken, the other one can be used as well
(`decode_of_apartAt`).
-/
import Mathlib.Logic.Function.Basic
import StaticPreview.Proofs.Settings.Reading

namespace StaticPreview.Settings

open StaticPreview.Text

/-- Whether putting a field into a tree may change what stands there for a setting. -/
def concerns (x : String × Value) (k : Setting) : Bool :=
  let key := Key.read x.1
  toLower key.head == k.area &&
    match key.parts, x.2 with
    | [], .table _ fields => fields.any fun y => toLower y.1 == k.name
    | [], _ => true
    | .name name :: _, _ => toLower name == k.name
    | .place _ :: _, _ => true

/-- The field of a setting concerns that setting and no other. -/
theorem concerns_key_eq_false_iff {own k : Setting} {v : Value} :
    concerns (own.key, v) k = false ↔ k ≠ own := by
  have same : concerns (own.key, v) k = (own.area == k.area && own.name == k.name) := by
    simp only [concerns, Setting.read_key, Setting.toLower_area, Setting.toLower_name]
  rw [same]
  by_cases this : k = own
  · subst this
    simp
  · have apart : own.name ≠ k.name := fun eq => this (Setting.name_injective eq).symm
    simp [this, apart]

/-! ## Tables -/

/-- Two tables that differ under one name only, under which they hold `v` and `w`. -/
structure Value.Variants (name : String) (v w t u : Value) : Prop where
  left : t.get? name = some v
  right : u.get? name = some w
  others : ∀ other, other ≠ name → t.get? other = u.get? other

/-- Trees that differ in one setting only, for which they hold `v` and `w`. -/
structure Value.ApartAt (k : Setting) (v w root other : Value) : Prop where
  here : ∃ t u, root.get? k.area = some t ∧ other.get? k.area = some u ∧ Variants k.name v w t u
  areas : ∀ area, area ≠ k.area → root.get? area = other.get? area

variable {k : Setting} {name : String} {v w t u root other : Value}

theorem Value.ApartAt.symm (trees : Value.ApartAt k v w root other) :
    Value.ApartAt k w v other root where
  here := by
    obtain ⟨t, u, left, right, variants⟩ := trees.here
    exact ⟨u, t, right, left, variants.right, variants.left,
      fun name ne => (variants.others name ne).symm⟩
  areas area ne := (trees.areas area ne).symm

theorem variants_put {own : String} (apart : own ≠ name) (variants : Value.Variants name v w t u)
    (f : Option Value → Value) : Value.Variants name v w (t.put own f) (u.put own f) where
  left := (Value.get?_put_of_ne apart.symm t f).trans variants.left
  right := (Value.get?_put_of_ne apart.symm u f).trans variants.right
  others n ne := by
    by_cases this : n = own
    · subst this
      rw [Value.get?_put_self, Value.get?_put_self, variants.others n ne]
    · rw [Value.get?_put_of_ne this, Value.get?_put_of_ne this, variants.others n ne]

/-- Merging a value changes a table under the name of the value alone. -/
theorem exists_merge_eq_put (own : String) (value : Value) :
    ∃ f, ∀ t : Value, t.merge own value = t.put (toLower own) f := by
  cases value with
  | table origin fields => exact ⟨_, fun t => by rw [Value.merge]⟩
  | scalar origin s =>
      refine ⟨fun _ => .scalar origin s, fun t => ?_⟩
      rw [Value.merge]
      simp
  | sequence origin items =>
      refine ⟨fun _ => .sequence origin items, fun t => ?_⟩
      rw [Value.merge]
      simp

theorem variants_merge {own : String} (apart : toLower own ≠ name)
    (variants : Value.Variants name v w t u) (value : Value) :
    Value.Variants name v w (t.merge own value) (u.merge own value) := by
  obtain ⟨f, eq⟩ := exists_merge_eq_put own value
  rw [eq, eq]
  exact variants_put apart variants f

theorem variants_mergeFields {fields : Fields Value}
    (silent : ∀ x ∈ fields, toLower x.1 ≠ name) (variants : Value.Variants name v w t u) :
    Value.Variants name v w (t.mergeFields fields) (u.mergeFields fields) := by
  induction fields generalizing t u with
  | nil => simpa only [Value.mergeFields] using variants
  | cons x fields ih =>
      have first := variants_merge (silent x List.mem_cons_self) variants x.2
      simpa only [Value.mergeFields] using
        ih (fun y member => silent y (List.mem_cons_of_mem _ member)) first

/-! ## Trees -/

theorem apartAt_put_of_ne {area : String} (apart : area ≠ k.area)
    (trees : Value.ApartAt k v w root other) (f : Option Value → Value) :
    Value.ApartAt k v w (root.put area f) (other.put area f) where
  here := by
    obtain ⟨t, u, left, right, variants⟩ := trees.here
    exact ⟨t, u, (Value.get?_put_of_ne apart.symm root f).trans left,
      (Value.get?_put_of_ne apart.symm other f).trans right, variants⟩
  areas area' ne := by
    by_cases this : area' = area
    · subst this
      rw [Value.get?_put_self, Value.get?_put_self, trees.areas area' ne]
    · rw [Value.get?_put_of_ne this, Value.get?_put_of_ne this, trees.areas area' ne]

theorem apartAt_put_area {f g : Option Value → Value}
    (variants : Value.Variants k.name v w (f (root.get? k.area)) (g (other.get? k.area)))
    (areas : ∀ area, area ≠ k.area → root.get? area = other.get? area) :
    Value.ApartAt k v w (root.put k.area f) (other.put k.area g) where
  here := ⟨_, _, Value.get?_put_self root k.area f, Value.get?_put_self other k.area g, variants⟩
  areas area ne := by
    rw [Value.get?_put_of_ne ne, Value.get?_put_of_ne ne, areas area ne]

/-- **Fields that do not concern a setting leave trees apart in it and in nothing else.** -/
theorem apartAt_set {x : String × Value} (silent : concerns x k = false)
    (trees : Value.ApartAt k v w root other) :
    Value.ApartAt k v w (root.set (Key.read x.1) x.2) (other.set (Key.read x.1) x.2) := by
  obtain ⟨own, value⟩ := x
  obtain ⟨t, u, left, right, variants⟩ := trees.here
  simp only [concerns] at silent
  generalize Key.read own = key at silent ⊢
  obtain ⟨head, parts⟩ := key
  dsimp only at silent ⊢
  by_cases here : toLower head = k.area
  · rw [here, beq_self_eq_true, Bool.true_and] at silent
    match parts, value with
    | [], .table origin fields =>
        simp only [Value.set, Value.setParts, Value.merge, here]
        refine apartAt_put_area ?_ trees.areas
        rw [left, right]
        apply variants_mergeFields _ variants
        simpa using silent
    | [], .scalar .. | [], .sequence .. => cases silent
    | .place _ :: _, _ => cases silent
    | [.name part], value =>
        have apart : toLower part ≠ k.name := by simpa using silent
        simp only [Value.set, Value.setParts, here]
        refine apartAt_put_area ?_ trees.areas
        rw [left, right]
        exact variants_merge apart variants value
    | .name part :: next :: rest, value =>
        have apart : toLower part ≠ k.name := by simpa using silent
        simp only [Value.set, Value.setParts, here]
        refine apartAt_put_area ?_ trees.areas
        rw [left, right]
        exact variants_put apart variants _
  · have put : ∃ f, ∀ root : Value, root.set ⟨head, parts⟩ value = root.put (toLower head) f := by
      cases parts with
      | nil => exact exists_merge_eq_put head value
      | cons part rest => exact ⟨_, fun root => by rw [Value.set, Value.setParts]; simp⟩
    obtain ⟨f, eq⟩ := put
    rw [eq, eq]
    exact apartAt_put_of_ne here trees f

/-- **So do sources of such fields.** -/
theorem apartAt_setAll {fields : Fields Value} (silent : ∀ x ∈ fields, concerns x k = false)
    (trees : Value.ApartAt k v w root other) :
    Value.ApartAt k v w (root.setAll fields) (other.setAll fields) := by
  induction fields generalizing root other with
  | nil => exact trees
  | cons x fields ih =>
      have first := apartAt_set (silent x List.mem_cons_self) trees
      exact ih (fun y member => silent y (List.mem_cons_of_mem _ member)) first

/-! ## One tree -/

theorem leaf?_of_variants (here : root.get? k.area = some t) (inside : t.get? k.name = some v) :
    root.leaf? k = some v := by
  rw [Value.leaf?, here]
  exact inside

theorem Value.ApartAt.leaf?_left (trees : Value.ApartAt k v w root other) :
    root.leaf? k = some v := by
  obtain ⟨t, u, left, right, variants⟩ := trees.here
  exact leaf?_of_variants left variants.left

theorem Value.ApartAt.leaf?_right (trees : Value.ApartAt k v w root other) :
    other.leaf? k = some w := by
  obtain ⟨t, u, left, right, variants⟩ := trees.here
  exact leaf?_of_variants right variants.right

/-- A tree is apart from itself in nothing. -/
theorem apartAt_self (found : root.leaf? k = some v) : Value.ApartAt k v v root root := by
  obtain ⟨t, here, inside⟩ := Option.bind_eq_some_iff.1 found
  exact ⟨⟨t, t, here, here, inside, inside, fun _ _ => rfl⟩, fun _ _ => rfl⟩

/-- Fields that do not concern a setting leave what stands for it. -/
theorem leaf?_setAll_of_silent {fields : Fields Value}
    (silent : ∀ x ∈ fields, concerns x k = false) (found : root.leaf? k = some v) :
    (root.setAll fields).leaf? k = some v :=
  (apartAt_setAll silent (apartAt_self found)).leaf?_left

theorem setAll_append (root : Value) (fields more : Fields Value) :
    root.setAll (fields ++ more) = (root.setAll fields).setAll more :=
  List.foldl_append

theorem setAll_cons (root : Value) (x : String × Value) (fields : Fields Value) :
    root.setAll (x :: fields) = (root.set (Key.read x.1) x.2).setAll fields :=
  rfl

/-! ## A setting given under its key -/

/-- A setting that is given differently leaves trees apart in it. -/
theorem apartAt_set_key (leaf : v.IsLeaf) (other : w.IsLeaf) (root : Value) :
    Value.ApartAt k v w (root.set (Key.read k.key) v) (root.set (Key.read k.key) w) := by
  rw [set_key leaf, set_key other]
  refine apartAt_put_area ⟨Value.get?_put_self _ _ _, Value.get?_put_self _ _ _, ?_⟩
    fun _ _ => rfl
  intro n ne
  rw [Value.get?_put_of_ne ne, Value.get?_put_of_ne ne]

/-- A setting that is given again leaves trees apart in it. -/
theorem apartAt_set_key_right (found : root.leaf? k = some v) (leaf : w.IsLeaf) :
    Value.ApartAt k v w root (root.set (Key.read k.key) w) := by
  obtain ⟨t, here, inside⟩ := Option.bind_eq_some_iff.1 found
  rw [set_key leaf]
  refine ⟨⟨t, _, here, Value.get?_put_self _ _ _, inside, Value.get?_put_self _ _ _, ?_⟩, ?_⟩
  · intro n ne
    rw [Value.get?_put_of_ne ne, here]
    rfl
  · intro area ne
    rw [Value.get?_put_of_ne ne]

/-! ## What the trees are taken for -/

theorem read_congr {t u : Value} {x y : Value} {some_ : String} {k : Setting}
    (isTable : t.get? some_ = some x) (isTable' : u.get? some_ = some y)
    (same : t.get? k.name = u.get? k.name) : k.read t = k.read u := by
  obtain ⟨_, fields, rfl⟩ := exists_table_of_get? isTable
  obtain ⟨_, others, rfl⟩ := exists_table_of_get? isTable'
  have lookups : fields.lookup k.name = others.lookup k.name := same
  simp only [Setting.read, Section.setting, lookups]

theorem gives_of_apartAt {k' : Setting} (apart : k' ≠ k) (trees : Value.ApartAt k v w root other)
    {said : Option k'.kind.Datum} (gives : root.Gives k' said) : other.Gives k' said := by
  by_cases area : k'.area = k.area
  · obtain ⟨t, u, left, right, variants⟩ := trees.here
    have names : k'.name ≠ k.name := fun same => apart (Setting.name_injective same)
    have read := gives.read (area ▸ left)
    rw [read_congr variants.left variants.right (variants.others _ names)] at read
    exact ⟨u, area ▸ right, read⟩
  · obtain ⟨section_, here, read⟩ := gives
    rw [trees.areas _ area] at here
    exact ⟨section_, here, read⟩

/-- **What can be used with one value of a setting can be used with another one that can be
taken**, and no other setting is taken for anything else. -/
theorem decode_of_apartAt (trees : Value.ApartAt k v w root other) {s : Settings}
    (decoded : decode root = .ok s) {said : Option k.kind.Datum} (taken : k.take w = .ok said) :
    decode other = .ok (Layer.settings (Function.update s.layer k said)) := by
  apply decode_of_gives
  intro k'
  by_cases this : k' = k
  · subst this
    rw [Function.update_self]
    exact (gives_iff_of_leaf? trees.leaf?_right).2 taken
  · rw [Function.update_of_ne this]
    exact gives_of_apartAt this trees (decode_eq_ok_iff.1 decoded k')

/-- What stands for a setting in a tree that can be used is taken for what the settings say. -/
theorem take_of_decode {s : Settings} (decoded : decode root = .ok s)
    (found : root.leaf? k = some v) : k.take v = .ok (s.layer k) :=
  (gives_iff_of_leaf? found).1 (decode_eq_ok_iff.1 decoded k)

/-- A tree whose setting was changed is taken for the changed value. -/
theorem layer_of_decode {s : Settings} (decoded : decode root = .ok s)
    (found : root.leaf? k = some v) {said : Option k.kind.Datum} (taken : k.take v = .ok said) :
    s.layer k = said :=
  Except.ok.inj ((take_of_decode decoded found).symm.trans taken)

end StaticPreview.Settings
