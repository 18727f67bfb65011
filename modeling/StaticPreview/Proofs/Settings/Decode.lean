/-
# StaticPreview.Proofs.Settings.Decode -- the settings that a tree stands for

A tree that stands for a layer over what holds when nothing is set has all four sections,
each of them a table (`exists_table`).  A setting of such a section is what the layer
says, or its default (`setting_of_standsFor`), and the two settings without a default are
what the layer says, if anything (`option_of_standsFor`).  So the tree is taken for the
settings of the layer, and nothing of it is a fault (`decode_of_standsFor`).
-/
import StaticPreview.Proofs.Settings.Merge

namespace StaticPreview.Settings

variable {root section_ : Value} {l : Layer} {origin : Option String} {fields : Fields Value}

/-- Where a setting was set, its section is a table. -/
theorem exists_table {full : Layer} (stands : root.StandsFor full) {k : Setting}
    {x : k.kind.Datum} (set : full k = some x) :
    ∃ origin fields, root.get? k.area = some (.table origin fields) := by
  have here := stands k
  rw [set] at here
  cases leaf : root.leaf? k with
  | none =>
      rw [leaf] at here
      cases here
  | some v =>
      obtain ⟨section_, there, found⟩ := Option.bind_eq_some_iff.1 leaf
      cases section_ with
      | table origin fields => exact ⟨origin, fields, there⟩
      | scalar | sequence => simp [Value.get?, Value.fields] at found

theorem leaf?_of_get? {k : Setting} (here : root.get? k.area = some section_) :
    root.leaf? k = section_.get? k.name := by
  rw [Value.leaf?, here]
  rfl

theorem setting_of_get?_eq_some {α : Type} {s : Section} {name : String} {default : Option α}
    {take : Value → Except Fault α} {v : Value} {a : α}
    (found : (Value.table origin fields).get? name = some v) (taken : take v = .ok a) :
    s.setting (.table origin fields) name default take = .ok a := by
  have there : fields.lookup name = some v := found
  simp only [Section.setting, there, taken]
  rfl

theorem setting_of_get?_eq_none {α : Type} {s : Section} {name : String} {default : α}
    {take : Value → Except Fault α}
    (absent : (Value.table origin fields).get? name = none) :
    s.setting (.table origin fields) name (some default) take = .ok default := by
  have missing : fields.lookup name = none := absent
  simp only [Section.setting, missing]

/-- A setting is taken from the value that its section has for it, or else is its default. -/
theorem setting_of_rel {α : Type} {k : Setting} {said : Option k.kind.Datum}
    (holds : Option.Rel k.kind.Holds ((Value.table origin fields).get? k.name) said) (s : Section)
    {default : Option α} {take : Value → Except Fault α} {a : α}
    (takes : ∀ v x, k.kind.Holds v x → said = some x → take v = .ok a)
    (unset : said = none → default = some a) :
    s.setting (.table origin fields) k.name default take = .ok a := by
  generalize found : (Value.table origin fields).get? k.name = leaf at holds
  cases holds with
  | none =>
      rw [unset rfl]
      exact setting_of_get?_eq_none found
  | some holds => exact setting_of_get?_eq_some found (takes _ _ holds rfl)

/-- A setting is what the layer says of it, or as it is when nothing was set. -/
theorem setting_of_standsFor (stands : root.StandsFor (l.above .standard)) (k : Setting)
    {d : k.kind.Datum} (standard : Layer.standard k = some d)
    (here : root.get? k.area = some (.table origin fields)) (s : Section)
    (default : Option k.kind.Datum) {take : Value → Except Fault k.kind.Datum}
    (takes : ∀ {v x}, k.kind.Holds v x → take v = .ok x) :
    s.setting (.table origin fields) k.name default take = .ok ((l k).getD d) := by
  have holds := stands k
  rw [l.above_standard_eq_some standard, leaf?_of_get? here] at holds
  apply setting_of_rel holds
  · intro v x there same
    rw [takes there, Option.some.inj same]
  · intro unset
    cases unset

/-- A setting without a default is what the layer says of it, if anything. -/
theorem option_of_standsFor (stands : root.StandsFor (l.above .standard)) (k : Setting)
    (standard : Layer.standard k = none) (here : root.get? k.area = some (.table origin fields))
    (s : Section) {take : Value → Except Fault (Option k.kind.Datum)}
    (takes : ∀ {v x}, k.kind.Holds v x → take v = .ok (some x)) :
    s.setting (.table origin fields) k.name (some none) take = .ok (l k) := by
  have holds := stands k
  rw [Layer.above, standard, Option.or_none, leaf?_of_get? here] at holds
  apply setting_of_rel holds
  · intro v x there said
    rw [takes there, said]
  · intro unset
    rw [unset]

/-! ## The sections -/

theorem decode_server (stands : root.StandsFor (l.above .standard))
    (here : root.get? "server" = some (.table origin fields)) :
    Server.decode (.table origin fields) = .ok l.settings.server := by
  refine (bind_of_eq_ok
    (setting_of_standsFor stands .host rfl here _ none toText_of_holds)).trans ?_
  refine (bind_of_eq_ok
    (setting_of_standsFor stands .port rfl here _ none toPort_of_holds)).trans ?_
  refine (bind_of_eq_ok
    (setting_of_standsFor stands .root rfl here _ none toText_of_holds)).trans ?_
  rfl

theorem decode_logging (stands : root.StandsFor (l.above .standard))
    (here : root.get? "logging" = some (.table origin fields)) :
    Logging.decode (.table origin fields) = .ok l.settings.logging := by
  refine (bind_of_eq_ok
    (setting_of_standsFor stands .accessLog rfl here _ none toBoolean_of_holds)).trans ?_
  refine (bind_of_eq_ok
    (setting_of_standsFor stands .accessLogFormat rfl here _ (some _) toText_of_holds)).trans ?_
  refine (bind_of_eq_ok
    (option_of_standsFor stands .accessLogFile rfl here _ toTextOption_of_holds)).trans ?_
  refine (bind_of_eq_ok
    (option_of_standsFor stands .errorLogFile rfl here _ toTextOption_of_holds)).trans ?_
  simp [Layer.settings, standard]

theorem decode_preview (stands : root.StandsFor (l.above .standard))
    (here : root.get? "preview" = some (.table origin fields)) :
    Preview.decode (.table origin fields) = .ok l.settings.preview := by
  refine (bind_of_eq_ok
    (setting_of_standsFor stands .probePaths rfl here _ (some _) toTexts_of_holds)).trans ?_
  refine (bind_of_eq_ok
    (setting_of_standsFor stands .indexFiles rfl here _ (some _) toTexts_of_holds)).trans ?_
  refine (bind_of_eq_ok
    (setting_of_standsFor stands .directoryListing rfl here _ (some _) toBoolean_of_holds)).trans ?_
  rfl

theorem decode_performance (stands : root.StandsFor (l.above .standard))
    (here : root.get? "performance" = some (.table origin fields)) :
    Performance.decode (.table origin fields) = .ok l.settings.performance := by
  refine (bind_of_eq_ok
    (setting_of_standsFor stands .requestTimeout rfl here _ none toSeconds_of_holds)).trans ?_
  rfl

/-- **A tree is taken for the settings of the layer that it stands for.** -/
theorem decode_of_standsFor (stands : root.StandsFor (l.above .standard)) :
    decode root = .ok l.settings := by
  obtain ⟨_, _, server⟩ := exists_table stands (l.above_standard_eq_some (k := .host) rfl)
  obtain ⟨_, _, logging⟩ := exists_table stands (l.above_standard_eq_some (k := .accessLog) rfl)
  obtain ⟨_, _, preview⟩ := exists_table stands (l.above_standard_eq_some (k := .probePaths) rfl)
  obtain ⟨_, _, performance⟩ :=
    exists_table stands (l.above_standard_eq_some (k := .requestTimeout) rfl)
  simp only [Setting.area] at server logging preview performance
  simp only [decode, server, logging, preview, performance, decode_server stands server,
    decode_logging stands logging, decode_preview stands preview,
    decode_performance stands performance]
  rfl

end StaticPreview.Settings
