/-
# StaticPreview.Proofs.Site.Revalidation -- a client that sends its date back

Whatever an answer about a file says under Last-Modified is the date of the file
(`httpDate_of_mem_values`).  A client may ask again later and send that value as it got
it; by then the file may be another, or the same at another time.  It is told that its
copy is current exactly when the second of the file is not later than that of the file it
was told about, and otherwise gets the whole file with its date: `revalidated`.
-/
import StaticPreview.Proofs.Site.File

namespace StaticPreview.Site

open Time

variable {site : Site} {fs : FileSystem} {r : Request} {t : Timing} {e : Entry}
  {value : Bytes} {date : String}

/-- A value that an answer about a file of this entry said under Last-Modified. -/
structure Received (site : Site) (fs : FileSystem) (r : Request) (t : Timing) (e : Entry)
    (value : Bytes) : Prop where
  fetch : site.IsFetch r
  file : ∃ p, (site.route fs r.target).file? = some (p, e)
  answer : ∃ x, site.handle fs r t = .ok x ∧ value ∈ x.response.headers.values "last-modified"

/-- A GET that sends a value back and says nothing about tags. -/
structure SendsBack (site : Site) (r : Request) (value : Bytes) : Prop where
  get : r.method = .get
  noProbe : site.settings.isProbe r.target = false
  since : r.headers.get? "if-modified-since" = some { name := "if-modified-since", value }
  noTags : r.headers.values "if-none-match" = []

/-! ## What was received -/

theorem values_notFound : Reply.notFound.withPreview.response.headers.values "last-modified" = [] := by
  decide +kernel

/-- **What an answer says under Last-Modified is the date of its file.** -/
theorem httpDate_of_mem_values (received : site.Received fs r t e value) :
    ∃ date, e.modified.httpDate = .ok date ∧ value = Bytes.ofString date := by
  obtain ⟨fetch, ⟨p, file⟩, x, handled, member⟩ := received
  rw [handle_of_isFetch fetch, reply_of_file? file] at handled
  cases served : serveFile fs (fetchOf r) p e with
  | error outside =>
      rw [served] at handled
      cases handled
  | ok reply =>
      rw [served] at handled
      obtain rfl := Except.ok.inj handled
      change value ∈ reply.withPreview.response.headers.values "last-modified" at member
      obtain ⟨date, dated, ⟨-, rfl⟩ | ⟨-, ⟨data, -, rfl⟩ | ⟨refusal, -, rfl⟩⟩⟩ :=
        serveFile_cases (stat_of_file? file).1 served
      · have confirms := Reply.confirms_notModified (isVisible_of_httpDate dated)
        rw [confirms.date] at member
        exact ⟨date, dated, List.mem_singleton.1 member⟩
      · rw [Reply.values_file p data _ (isVisible_of_httpDate dated)] at member
        exact ⟨date, dated, List.mem_singleton.1 member⟩
      · have nothing : value ∈ Reply.notFound.withPreview.response.headers.values "last-modified" :=
          member
        rw [values_notFound] at nothing
        cases nothing

theorem conditions_of_sendsBack (again : site.SendsBack r (Bytes.ofString date))
    (visible : Header.isVisible date.toList = true) :
    (fetchOf r).conditions = { modifiedSince := some date } := by
  have since : r.headerText? "if-modified-since" = some date := by
    rw [Request.headerText?, again.since]
    exact Field.text?_ofString _ visible
  have tags : r.headerText? "if-none-match" = none :=
    Request.headerText?_of_values_eq_nil again.noTags
  rw [fetchOf, Fetch.ofRequest, since, tags]

/-! ## Asking again -/

/-- **Revalidation is exact to the second.**  The date of an instant of a year that dates
are read with makes a copy current exactly for the instants whose second is not later; so
a client that sends back what it received is answered that its copy is current exactly
when the second of the file is not later than it was, and otherwise with the file. -/
theorem revalidated :
    (∀ t₁ t₂ : Instant, 0 ≤ t₁.year → t₁.year ≤ 9999 → inCalendar t₂.seconds = true →
      ∃ date, t₁.httpDate = .ok date ∧
        Conditions.current { modifiedSince := some date } t₂ =
          .ok (decide (t₂.nanoseconds / 1000000000 ≤ t₁.nanoseconds / 1000000000))) ∧
    ∀ {site : Site} {fs : FileSystem} {r : Request} {t : Timing} {e : Entry} {value : Bytes},
      site.Received fs r t e value → 0 ≤ e.modified.year → e.modified.year ≤ 9999 →
      ∀ (fs' : FileSystem) {r' : Request} (t' : Timing) {p : Bytes} {e' : Entry} {content : Bytes},
      site.SendsBack r' value → (site.route fs' r'.target).file? = some (p, e') →
      e'.node = .file content → e'.locked = false → inCalendar e'.modified.seconds = true →
      ∃ x date, site.handle fs' r' t' = .ok x ∧ e'.modified.httpDate = .ok date ∧
        if e'.modified.seconds ≤ e.modified.seconds then x.response.Confirms date
        else x.response.Gives p content date := by
  refine ⟨?_, ?_⟩
  · intro t₁ t₂ low high calendar
    have first : inCalendar t₁.seconds = true := by
      unfold Instant.year at low high
      exact (inCalendar_iff t₁.seconds).2 (by unfold firstYear lastYear; omega)
    obtain ⟨date, dated⟩ := Instant.exists_httpDate first
    refine ⟨date, dated, ?_⟩
    rw [Instant.nanoseconds_ediv, Instant.nanoseconds_ediv]
    exact Conditions.current_httpDate dated low high calendar
  · intro site fs r t e value received low high fs' r' t' p e' content again file regular
      unlocked calendar
    -- what is sent back is a date, and is read as the text that it was
    obtain ⟨sent, written, rfl⟩ := httpDate_of_mem_values received
    obtain ⟨date, dated⟩ := Instant.exists_httpDate calendar
    have conditions := conditions_of_sendsBack again (isVisible_of_httpDate written)
    have current : (fetchOf r').conditions.current e'.modified =
        .ok (decide (e'.modified.seconds ≤ e.modified.seconds)) := by
      rw [conditions]
      exact Conditions.current_httpDate written low high calendar
    by_cases older : e'.modified.seconds ≤ e.modified.seconds
    · rw [decide_eq_true older] at current
      obtain ⟨x, handled, confirms⟩ :=
        handle_current ⟨Or.inl again.get, again.noProbe⟩ file dated current t'
      refine ⟨x, date, handled, dated, ?_⟩
      rw [if_pos older]
      exact confirms
    · rw [decide_eq_false older] at current
      have opened := content_of_unlocked regular unlocked
      obtain ⟨x, handled, gives⟩ :=
        handle_opened again.noProbe again.get file dated current opened t'
      refine ⟨x, date, handled, dated, ?_⟩
      rw [if_neg older]
      exact gives

namespace Example

/-- A tree with one file. -/
def oneFile (content : String) (modified : Instant) : FileSystem where
  entries := [([Bytes.ofString "a.txt"], { node := .file (Bytes.ofString content), modified })]

/-- A quarter of the last second before 1970, and three quarters of it. -/
def early : Instant where
  seconds := -1
  nanos := 250000000

@[inherit_doc early]
def late : Instant where
  seconds := -1
  nanos := 750000000

/-- The value that dates that second. -/
def lastSecondOf1969 : Bytes := Bytes.ofString "Wed, 31 Dec 1969 23:59:59 GMT"

/-- The request that sends it back. -/
def again : Request where
  target := "/a.txt".toList
  headers := ⟨[{ name := "if-modified-since", value := lastSecondOf1969 }]⟩
  peer := { ip := .v4 127 0 0 1, port := 50000 }

end Example

/-- A copy is current within a second, before 1970 too, and is not in the next one. -/
theorem revalidated_before_1970 :
    (∃ date, Example.late.httpDate = .ok date ∧
      Conditions.current { modifiedSince := some date } Example.early = .ok true) ∧
    (∃ x, Example.atTop.handle (Example.oneFile "new" Example.late) Example.again
      Example.timing = .ok x ∧ x.response.status = 304) ∧
    ∃ x, Example.atTop.handle (Example.oneFile "new" (.ofSeconds 0)) Example.again
      Example.timing = .ok x ∧ x.response.status = 200 ∧ x.response.body = Bytes.ofString "new" := by
  have answer : ((Example.atTop.handle (Example.oneFile "old" Example.early)
      (Example.request .get "/a.txt") Example.timing).toOption.map fun x =>
        x.response.headers.values "last-modified") = some [Example.lastSecondOf1969] := by
    decide +kernel
  obtain ⟨x, handled, dated⟩ := exists_of_toOption_map answer
  have member : Example.lastSecondOf1969 ∈ x.response.headers.values "last-modified" := by
    rw [dated]
    exact List.mem_singleton_self _
  have received : Example.atTop.Received (Example.oneFile "old" Example.early)
      (Example.request .get "/a.txt") Example.timing
      { node := .file (Bytes.ofString "old"), modified := Example.early }
      Example.lastSecondOf1969 :=
    ⟨⟨Or.inl rfl, by decide⟩, ⟨_, rfl⟩, x, handled, member⟩
  have again : Example.atTop.SendsBack Example.again Example.lastSecondOf1969 :=
    ⟨rfl, by decide, rfl, rfl⟩
  refine ⟨?_, ?_, ?_⟩
  · obtain ⟨date, dated, current⟩ :=
      revalidated.1 Example.late Example.early (by decide) (by decide) (by decide)
    exact ⟨date, dated, current⟩
  · obtain ⟨y, date, handled, -, told⟩ :=
      revalidated.2 received (by decide) (by decide) (Example.oneFile "new" Example.late)
        Example.timing again rfl rfl rfl (by decide)
    rw [if_pos (by decide)] at told
    exact ⟨y, handled, told.status⟩
  · obtain ⟨y, date, handled, -, told⟩ :=
      revalidated.2 received (by decide) (by decide) (Example.oneFile "new" (.ofSeconds 0))
        Example.timing again rfl rfl rfl (by decide)
    rw [if_neg (by decide)] at told
    exact ⟨y, handled, told.status, told.body⟩

end StaticPreview.Site
