/-
# StaticPreview.Proofs.Site.Undated -- a file whose time has no date ends the run

The times of files reach further than the calendar, which has the years -262143 to 262142
(`inCalendar_iff`).  A file is answered for exactly when its time is one of them, and
otherwise it is that time that comes of it (`serveFile_of_not_inCalendar`).

Requests are answered one after another, each from the tree as it is then
(`Site.answers`).  One that does not lead to such a file is answered and the next one comes
(`answers_cons_of_dated`); one that does ends the run (`answers_cons_of_undated`).  So all
are answered exactly when none of them leads to such a file, and from the first that does
none is: `servable_iff`.
-/
import StaticPreview.Proofs.Site.Answered
import StaticPreview.Proofs.Site.Revalidation

namespace StaticPreview

open Time

/-- The seconds that have dates, in numbers. -/
theorem Time.inCalendar_iff_bounds (seconds : Int) :
    inCalendar seconds = true ↔ -8334601228800 ≤ seconds ∧ seconds ≤ 8210266876799 := by
  have first : firstSecond = -8334601228800 := by decide
  have last : lastSecond = 8210266876799 := by decide
  rw [inCalendar, first, last, Bool.and_eq_true, decide_eq_true_iff, decide_eq_true_iff]

namespace Site

variable {site : Site} {fs : FileSystem} {f : Fetch} {p : Bytes} {e : Entry}

/-- Of a file whose time has no date there comes that time, and no reply. -/
theorem serveFile_of_not_inCalendar (outside : ¬ inCalendar e.modified.seconds = true) :
    serveFile fs f p e = .error ⟨e.modified⟩ := by
  apply serveFile_of_httpDate_error
  rw [Instant.httpDate_eq, if_neg outside]

/-! ## One request after another -/

/-- A request that comes in, and the tree as it is then. -/
structure Visit where
  fs : FileSystem
  request : Request
  timing : Timing

/-- A visit that leads to a file whose time has no date. -/
def Visit.AsksUndated (site : Site) (v : Visit) : Prop := site.AsksUndated v.fs v.request

/-- The answers to one visit after another, until there is none. -/
def answers (site : Site) : List Visit → List Exchange
  | [] => []
  | v :: visits =>
      match site.handle v.fs v.request v.timing with
      | .ok x => x :: site.answers visits
      | .error _ => []

variable {v : Visit} {before visits : List Visit}

/-- One more that does not lead to such a file is answered first. -/
theorem answers_cons_of_dated (dated : ¬ v.AsksUndated site) :
    ∃ x, ∀ visits, site.answers (v :: visits) = x :: site.answers visits := by
  obtain ⟨x, handled⟩ := (exists_handle_iff (t := v.timing)).2 dated
  exact ⟨x, fun visits => by rw [answers, handled]⟩

theorem answers_cons_of_undated (undated : v.AsksUndated site) (visits : List Visit) :
    site.answers (v :: visits) = [] := by
  cases handled : site.handle v.fs v.request v.timing with
  | error outside => rw [answers, handled]
  | ok x => exact absurd undated (exists_handle_iff.1 ⟨x, handled⟩)

/-- As long as none leads to such a file the run goes on. -/
theorem answers_append (dated : ∀ v ∈ before, ¬ v.AsksUndated site) (visits : List Visit) :
    site.answers (before ++ visits) = site.answers before ++ site.answers visits := by
  induction before with
  | nil => rfl
  | cons v before ih =>
      obtain ⟨x, goesOn⟩ := answers_cons_of_dated (dated v List.mem_cons_self)
      have rest := ih fun u member => dated u (List.mem_cons_of_mem _ member)
      rw [List.cons_append, goesOn, goesOn, rest, List.cons_append]

/-- **The run ends with the first that leads to such a file.** -/
theorem answers_append_cons (dated : ∀ v ∈ before, ¬ v.AsksUndated site)
    (undated : v.AsksUndated site) (after : List Visit) :
    site.answers (before ++ v :: after) = site.answers before := by
  rw [answers_append dated, answers_cons_of_undated undated, List.append_nil]

/-- **All are answered exactly when none leads to such a file.** -/
theorem length_answers_iff :
    (site.answers visits).length = visits.length ↔ ∀ v ∈ visits, ¬ v.AsksUndated site := by
  induction visits with
  | nil => simp [answers]
  | cons v visits ih =>
      rw [List.forall_mem_cons]
      by_cases undated : v.AsksUndated site
      · rw [answers_cons_of_undated undated]
        exact iff_of_false (Nat.succ_ne_zero _).symm fun dated => dated.1 undated
      · obtain ⟨x, goesOn⟩ := answers_cons_of_dated undated
        rw [goesOn, List.length_cons, List.length_cons, Nat.succ_inj, ih]
        exact ⟨fun rest => ⟨undated, rest⟩, fun dated => dated.2⟩

/-- **A file is servable exactly when its time is in the calendar**, whatever is asked of
it.  A request that leads to one that is not ends the run: those before it are answered,
and none from there on. -/
theorem servable_iff (fs : FileSystem) (f : Fetch) (p : Bytes) (e : Entry) (site : Site)
    (visits : List Visit) :
    (if -8334601228800 ≤ e.modified.seconds ∧ e.modified.seconds ≤ 8210266876799 then
        ∃ reply, serveFile fs f p e = .ok reply
      else serveFile fs f p e = .error ⟨e.modified⟩) ∧
      ((site.answers visits).length = visits.length ↔ ∀ v ∈ visits, ¬ v.AsksUndated site) ∧
      ∀ before v after, visits = before ++ v :: after →
        (∀ u ∈ before, ¬ u.AsksUndated site) → v.AsksUndated site →
          site.answers visits = site.answers before ∧
            (site.answers visits).length = before.length := by
  refine ⟨?_, length_answers_iff, ?_⟩
  · split
    · rename_i bounds
      exact exists_serveFile_iff.2 ((inCalendar_iff_bounds _).2 bounds)
    · rename_i bounds
      exact serveFile_of_not_inCalendar fun calendar =>
        bounds ((inCalendar_iff_bounds _).1 calendar)
  · rintro before v after rfl dated undated
    rw [answers_append_cons dated undated]
    exact ⟨rfl, length_answers_iff.2 dated⟩

namespace Example

/-- A request for a file that was modified in a second, between two for another file. -/
def threeVisits (seconds : Int) : List Visit :=
  let fs := oneFile "new" (.ofSeconds seconds)
  [⟨fs, request .get "/b.txt", timing⟩, ⟨fs, request .get "/a.txt", timing⟩,
    ⟨fs, request .get "/b.txt", timing⟩]

end Example

/-- The last second of the calendar is servable, and the one after it ends the run. -/
theorem answers_threeVisits :
    (Example.atTop.answers (Example.threeVisits 8210266876799)).length = 3 ∧
      (Example.atTop.answers (Example.threeVisits 8210266876800)).length = 1 := by
  have run (seconds : Int) := servable_iff (Example.oneFile "new" (.ofSeconds seconds))
    { target := "/a.txt".toList } (Bytes.ofString "/a.txt")
    { node := .file (Bytes.ofString "new"), modified := .ofSeconds seconds }
    Example.atTop (Example.threeVisits seconds)
  have missing (seconds : Int) (t : Timing) : ¬ Visit.AsksUndated Example.atTop
      ⟨Example.oneFile "new" (.ofSeconds seconds), Example.request .get "/b.txt", t⟩ := by
    have noFile : (Example.atTop.route (Example.oneFile "new" (.ofSeconds seconds))
        "/b.txt".toList).file? = none := rfl
    rintro ⟨-, p, e, file, -⟩
    have absent : none = some (p, e) := noFile.symm.trans file
    cases absent
  refine ⟨?_, ?_⟩
  · apply (run 8210266876799).2.1.2
    intro v member
    have tree : v.fs = Example.oneFile "new" (.ofSeconds 8210266876799) := by
      simp only [Example.threeVisits, List.mem_cons, List.not_mem_nil, or_false] at member
      rcases member with rfl | rfl | rfl <;> rfl
    apply not_asksUndated
    rw [tree]
    intro entry member
    rw [List.mem_singleton.1 member]
    decide
  · have undated : Visit.AsksUndated Example.atTop
        ⟨Example.oneFile "new" (.ofSeconds 8210266876800), Example.request .get "/a.txt",
          Example.timing⟩ := by
      refine ⟨⟨Or.inl rfl, by decide⟩, Bytes.ofString "/a.txt",
        { node := .file (Bytes.ofString "new"), modified := .ofSeconds 8210266876800 }, ?_, ?_⟩
      · decide +kernel
      · decide
    exact ((run 8210266876800).2.2 [_] _ [_] rfl
      (by simpa using missing _ _) undated).2

/-- **Not every time is servable**: the seconds next to the calendar and the outermost that
a file can have get no answer, and neither does the request after that. -/
theorem not_servable_outside :
    (∀ seconds ∈ [-9223372036854775808, -8334601228801, 8210266876800, 9223372036854775807],
      Example.atTop.handle (Example.oneFile "new" (.ofSeconds seconds))
        (Example.request .get "/a.txt") Example.timing = .error ⟨.ofSeconds seconds⟩) ∧
      (Example.atTop.answers (Example.threeVisits 8210266876800)).length = 1 := by
  refine ⟨?_, by decide +kernel⟩
  simp only [List.mem_cons, List.not_mem_nil, or_false]
  rintro seconds (rfl | rfl | rfl | rfl) <;> rfl

end Site

end StaticPreview
