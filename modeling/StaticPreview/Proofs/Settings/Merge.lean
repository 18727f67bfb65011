/-
# StaticPreview.Proofs.Settings.Merge -- sources laid over one another

The sources are merged into one tree, in which a setting is found under its section and
its name (`leaf?`).  A source says something of a setting under the key of the setting,
or in a table under the name of its section (`Mentions`); either way it puts its value
there and touches no other setting (`leaf?_set`).  A source whose fields say what a layer
says (`Tells`) therefore lays that layer over what the tree stood for
(`standsFor_setAll`), whatever else its fields are and in whatever order they come.
-/
import StaticPreview.Proofs.Settings.Layer
import StaticPreview.Proofs.Settings.Value

namespace StaticPreview.Settings

/-! ## Tables -/

/-- What a table holds after the fields of another one were put into it: one of these, or
what it held before. -/
theorem get?_mergeFields {fields : Fields Value}
    (plain : ∀ x ∈ fields, ∃ (k : Setting) (y : k.kind.Datum), x.1 = k.name ∧ k.kind.Holds x.2 y)
    (root : Value) (name : String) :
    (∃ v, (name, v) ∈ fields ∧ (root.mergeFields fields).get? name = some v) ∨
      (∀ v, (name, v) ∉ fields) ∧ (root.mergeFields fields).get? name = root.get? name := by
  induction fields generalizing root with
  | nil => exact Or.inr ⟨by simp, by rw [Value.mergeFields]⟩
  | cons x fields ih =>
      obtain ⟨own, v⟩ := x
      obtain ⟨k, y, rfl, holds⟩ := plain _ List.mem_cons_self
      have rest := ih (fun x member => plain x (List.mem_cons_of_mem _ member))
        (root.put k.name fun _ => v)
      rw [Value.mergeFields, merge_of_isLeaf (isLeaf_of_holds holds), Setting.toLower_name]
      rcases rest with ⟨w, member, found⟩ | ⟨absent, kept⟩
      · exact Or.inl ⟨w, List.mem_cons_of_mem _ member, found⟩
      · by_cases same : name = k.name
        · subst same
          exact Or.inl ⟨v, List.mem_cons_self, kept.trans (Value.get?_put_self root _ _)⟩
        · refine Or.inr ⟨?_, kept.trans (Value.get?_put_of_ne same root _)⟩
          intro w member
          rcases List.mem_cons.1 member with here | later
          · exact same (Prod.mk.inj here).1
          · exact absent w later

/-! ## Settings in the tree -/

/-- What a tree of values holds for a setting. -/
def Value.leaf? (root : Value) (k : Setting) : Option Value :=
  (root.get? k.area).bind fun section_ => section_.get? k.name

/-- Whether a field of a source says a value of a setting. -/
def Mentions (x : String × Value) (k : Setting) (v : Value) : Prop :=
  x = (k.key, v) ∨
    ∃ origin fields, x = (k.area, .table origin fields) ∧ (k.name, v) ∈ fields

/-- The fields of a source say what a layer says, and nothing else. -/
structure Tells (fields : Fields Value) (l : Layer) : Prop where
  /-- Nothing but settings is spoken of, under their keys or by section. -/
  known : ∀ x ∈ fields, (∃ k, x.1 = Setting.key k) ∨
    ∃ k origin entries, x = (Setting.area k, .table origin entries) ∧
      ∀ y ∈ entries, ∃ k', Setting.area k' = Setting.area k ∧ y.1 = Setting.name k'
  /-- What is said of a setting is its value in the layer. -/
  sound : ∀ x ∈ fields, ∀ k v, Mentions x k v → ∃ y, l k = some y ∧ k.kind.Holds v y
  /-- Every setting of the layer is spoken of. -/
  complete : ∀ k y, l k = some y → ∃ x ∈ fields, ∃ v, Mentions x k v

/-- A tree holds for every setting what the layer says, and nothing for the others. -/
def Value.StandsFor (root : Value) (l : Layer) : Prop :=
  ∀ k, Option.Rel (k.kind.Holds) (root.leaf? k) (l k)

theorem set_key {k : Setting} {v : Value} (leaf : v.IsLeaf) (root : Value) :
    root.set (Key.read k.key) v =
      root.put k.area fun old => (old.getD .nothing).put k.name fun _ => v := by
  simp only [Setting.read_key, Value.set, Value.setParts, Setting.toLower_area,
    merge_of_isLeaf leaf, Setting.toLower_name]

theorem set_area (k : Setting) (origin : Option String) (entries : Fields Value) (root : Value) :
    root.set (Key.read k.area) (.table origin entries) =
      root.put k.area fun old => (old.getD .empty).mergeFields entries := by
  rw [Setting.read_area, Value.set, Value.setParts, Value.merge, Setting.toLower_area]

theorem leaf?_put_of_eq {k : Setting} {area : String} (here : k.area = area) (root : Value)
    (f : Option Value → Value) :
    (root.put area f).leaf? k = (f (root.get? area)).get? k.name := by
  rw [Value.leaf?, here, Value.get?_put_self]
  rfl

theorem leaf?_put_of_ne {k : Setting} {area : String} (apart : k.area ≠ area) (root : Value)
    (f : Option Value → Value) : (root.put area f).leaf? k = root.leaf? k := by
  rw [Value.leaf?, Value.get?_put_of_ne apart]
  rfl

/-- What stands where there is no section holds no setting. -/
theorem leaf?_eq_get?_getD {k : Setting} {v : Value} (bare : v.get? k.name = none) (root : Value) :
    ((root.get? k.area).getD v).get? k.name = root.leaf? k := by
  unfold Value.leaf?
  cases root.get? k.area with
  | none => exact bare
  | some section_ => rfl

theorem key_ne_area (k k' : Setting) : k.key ≠ k'.area := by
  intro same
  have read := congrArg Key.read same
  rw [Setting.read_key, Setting.read_area] at read
  simp at read

theorem mentions_key_iff {own k : Setting} {v w : Value} :
    Mentions (own.key, v) k w ↔ k = own ∧ w = v := by
  constructor
  · rintro (underKey | ⟨origin, entries, inTable, -⟩)
    · obtain ⟨named, rfl⟩ := Prod.mk.inj underKey
      exact ⟨(Setting.key_injective named).symm, rfl⟩
    · exact absurd (Prod.mk.inj inTable).1 (key_ne_area own k)
  · rintro ⟨rfl, rfl⟩
    exact Or.inl rfl

theorem mentions_area_iff {own k : Setting} {origin : Option String} {entries : Fields Value}
    {w : Value} :
    Mentions (own.area, .table origin entries) k w ↔
      k.area = own.area ∧ (k.name, w) ∈ entries := by
  constructor
  · rintro (underKey | ⟨origin, fields, inTable, inside⟩)
    · exact absurd (Prod.mk.inj underKey).1.symm (key_ne_area k own)
    · obtain ⟨area, table⟩ := Prod.mk.inj inTable
      cases table
      exact ⟨area.symm, inside⟩
  · rintro ⟨area, inside⟩
    exact Or.inr ⟨origin, entries, by rw [area], inside⟩

/-- Fields under the keys of settings tell the layer of their values. -/
theorem tells_of_keys {fields : Fields Value} {l : Layer}
    (sound : ∀ x ∈ fields, ∃ (k : Setting) (y : k.kind.Datum),
      x.1 = k.key ∧ l k = some y ∧ k.kind.Holds x.2 y)
    (complete : ∀ k y, l k = some y → ∃ v, (k.key, v) ∈ fields) : Tells fields l where
  known x member := by
    obtain ⟨k, -, named, -⟩ := sound x member
    exact Or.inl ⟨k, named⟩
  sound x member k v mentions := by
    obtain ⟨name, w⟩ := x
    obtain ⟨own, y, rfl, set, holds⟩ := sound _ member
    obtain ⟨rfl, rfl⟩ := mentions_key_iff.1 mentions
    exact ⟨y, set, holds⟩
  complete k y set := by
    obtain ⟨v, member⟩ := complete k y set
    exact ⟨_, member, v, mentions_key_iff.2 ⟨rfl, rfl⟩⟩

/-- Setting a key puts the value where the setting is and leaves the others as they are. -/
theorem leaf?_set_key {own : Setting} {v : Value} {y : own.kind.Datum}
    (holds : own.kind.Holds v y) (root : Value) (k : Setting) :
    (root.set (Key.read own.key) v).leaf? k = if k = own then some v else root.leaf? k := by
  rw [set_key (isLeaf_of_holds holds)]
  by_cases this : k = own
  · subst this
    rw [if_pos rfl, leaf?_put_of_eq rfl, Value.get?_put_self]
  · rw [if_neg this]
    by_cases area : k.area = own.area
    · have apart : k.name ≠ own.name := fun same => this (Setting.name_injective same)
      rw [leaf?_put_of_eq area, Value.get?_put_of_ne apart, ← area]
      exact leaf?_eq_get?_getD rfl root
    · exact leaf?_put_of_ne area root _

/-- Setting a section puts each value where its setting is and leaves the settings that it
does not name as they are. -/
theorem leaf?_set_area {own : Setting} {entries : Fields Value} (origin : Option String)
    (plain : ∀ x ∈ entries, ∃ (k : Setting) (y : k.kind.Datum), x.1 = k.name ∧ k.kind.Holds x.2 y)
    (root : Value) (k : Setting) :
    let section_ := root.set (Key.read own.area) (.table origin entries)
    (∃ v, (k.area = own.area ∧ (k.name, v) ∈ entries) ∧ section_.leaf? k = some v) ∨
      (∀ v, ¬ (k.area = own.area ∧ (k.name, v) ∈ entries)) ∧
        section_.leaf? k = root.leaf? k := by
  intro section_
  have set : section_ = _ := set_area own origin entries root
  rw [set]
  by_cases area : k.area = own.area
  · rw [leaf?_put_of_eq area]
    rcases get?_mergeFields plain ((root.get? own.area).getD .empty) k.name with
      ⟨v, inside, found⟩ | ⟨absent, kept⟩
    · exact Or.inl ⟨v, ⟨area, inside⟩, found⟩
    · refine Or.inr ⟨fun v both => absent v both.2, ?_⟩
      rw [kept, ← area]
      exact leaf?_eq_get?_getD rfl root
  · exact Or.inr ⟨fun v both => area both.1, leaf?_put_of_ne area root _⟩

/-- A field puts a value that it says of a setting where the setting is, and leaves the
settings of which it says nothing as they are. -/
theorem leaf?_set {fields : Fields Value} {l : Layer} (tells : Tells fields l) {x : String × Value}
    (member : x ∈ fields) (root : Value) (k : Setting) :
    (∃ v, Mentions x k v ∧ (root.set (Key.read x.1) x.2).leaf? k = some v) ∨
      (∀ v, ¬ Mentions x k v) ∧ (root.set (Key.read x.1) x.2).leaf? k = root.leaf? k := by
  obtain ⟨name, v⟩ := x
  rcases tells.known _ member with ⟨own, same⟩ | ⟨own, origin, entries, same, inArea⟩
  · obtain rfl : name = own.key := same
    obtain ⟨y, -, holds⟩ := tells.sound _ member own v (Or.inl rfl)
    simp only [mentions_key_iff, leaf?_set_key holds]
    by_cases this : k = own
    · exact Or.inl ⟨v, ⟨this, rfl⟩, if_pos this⟩
    · exact Or.inr ⟨fun w both => this both.1, if_neg this⟩
  · obtain ⟨rfl, rfl⟩ := Prod.mk.inj same
    simp only [mentions_area_iff]
    apply leaf?_set_area origin
    intro y inside
    obtain ⟨k', area, named⟩ := inArea y inside
    obtain ⟨z, -, holds⟩ := tells.sound _ member k' y.2
      (mentions_area_iff.2 ⟨area, named ▸ inside⟩)
    exact ⟨k', z, named, holds⟩

/-- Fields put a value that one of them says of a setting where the setting is, and leave
the settings of which none says anything as they are. -/
theorem leaf?_setAll {fields : Fields Value} {l : Layer} (tells : Tells fields l)
    {part : Fields Value} (within : part ⊆ fields) (root : Value) (k : Setting) :
    (∃ x ∈ part, ∃ v, Mentions x k v ∧ (root.setAll part).leaf? k = some v) ∨
      (∀ x ∈ part, ∀ v, ¬ Mentions x k v) ∧ (root.setAll part).leaf? k = root.leaf? k := by
  induction part generalizing root with
  | nil => exact Or.inr ⟨by simp, rfl⟩
  | cons x part ih =>
      have first := leaf?_set tells (within List.mem_cons_self) root k
      have rest := ih (List.subset_of_cons_subset within) (root.set (Key.read x.1) x.2)
      rcases rest with ⟨y, member, v, mentions, found⟩ | ⟨silent, kept⟩
      · exact Or.inl ⟨y, List.mem_cons_of_mem _ member, v, mentions, found⟩
      · rcases first with ⟨v, mentions, found⟩ | ⟨silentFirst, keptFirst⟩
        · exact Or.inl ⟨x, List.mem_cons_self, v, mentions, kept.trans found⟩
        · refine Or.inr ⟨?_, kept.trans keptFirst⟩
          intro y member
          rcases List.mem_cons.1 member with rfl | later
          · exact silentFirst
          · exact silent y later

/-- **A source lays what it says over what was said before.** -/
theorem standsFor_setAll {root : Value} {fields : Fields Value} {l below : Layer}
    (tells : Tells fields l) (stands : root.StandsFor below) :
    (root.setAll fields).StandsFor (l.above below) := by
  intro k
  rw [Layer.above]
  rcases leaf?_setAll tells (List.Subset.refl fields) root k with
    ⟨x, member, v, mentions, found⟩ | ⟨silent, kept⟩
  · obtain ⟨y, set, holds⟩ := tells.sound x member k v mentions
    rw [found, set]
    exact .some holds
  · have unset : l k = none := by
      cases set : l k with
      | none => rfl
      | some y =>
          obtain ⟨x, member, v, mentions⟩ := tells.complete k y set
          exact absurd mentions (silent x member v)
    rw [kept, unset]
    exact stands k

end StaticPreview.Settings
