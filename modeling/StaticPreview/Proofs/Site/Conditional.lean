/-
# StaticPreview.Proofs.Site.Conditional -- what a date in the request changes

Without its date a request is answered from the same file system in the same way; only
what is done with a file depends on the conditions, and only if the copy of it is current
(`plainReply_unconditional_of_stale`).  An answer with 304 should stand for the 200 that
there would be without the date, with the same Last-Modified, and any other answer should
not change at all (`InPlace`).

The conditions are looked at before the file is opened.  So there is one way to fail, a
file that is as old as the date and cannot be opened: with the date the answer is 304, and
without it 404 (`Unopened`).  `inPlace_iff_not_unopened` says that there is no other.
-/
import StaticPreview.Proofs.Site.File

namespace StaticPreview

open Time

/-- The fields that do not have a name. -/
def Headers.without (hs : Headers) (name : String) : Headers :=
  ⟨hs.fields.filter (·.name != name)⟩

theorem Headers.values_without (hs : Headers) (name : String) :
    (hs.without name).values name = [] := by
  have none_ : (hs.fields.filter (·.name != name)).filter (·.name == name) = [] := by
    rw [List.filter_eq_nil_iff]
    intro field member same
    have other := (List.mem_filter.1 member).2
    simp [eq_of_beq same] at other
  rw [values, without, none_, List.map_nil]

/-- The request without its date. -/
def Request.unconditional (r : Request) : Request :=
  { r with headers := r.headers.without "if-modified-since" }

namespace Site

variable {site : Site} {fs : FileSystem} {f g : Fetch} {r : Request} {t t' : Timing}
  {p : Bytes} {e : Entry} {way : Route} {reply : Reply}

/-- An answer to a request with a date, seen from the one to the request without it. -/
structure InPlace (plain conditional : Response) : Prop where
  /-- A 304 stands in place of a 200 with the same date. -/
  replaced : conditional.status = 304 → plain.status = 200 ∧
    ∃ date, plain.headers.values "last-modified" = [date] ∧
      conditional.headers.values "last-modified" = [date]
  /-- Any other answer is the one without the date. -/
  unchanged : conditional.status ≠ 304 → conditional = plain

/-- What is no 200, or is one without a date, is not changed. -/
theorem InPlace.eq_of_undated {plain conditional : Response} (inPlace : InPlace plain conditional)
    (other : plain.status ≠ 200 ∨ plain.headers.values "last-modified" = []) :
    conditional = plain := by
  apply inPlace.unchanged
  intro told
  obtain ⟨whole, date, dated, -⟩ := inPlace.replaced told
  rcases other with refused | undated
  · exact refused whole
  · rw [undated] at dated
    cases dated

/-- A file that is as old as the date of a request for it and cannot be opened. -/
structure Unopened (site : Site) (fs : FileSystem) (r : Request) (p : Bytes) (e : Entry) :
    Prop where
  file : (site.route fs r.target).file? = some (p, e)
  current : (fetchOf r).conditions.current e.modified = .ok true
  refused : ∃ refusal, e.content = .error refusal

theorem inPlace_refl {response : Response} (told : response.status ≠ 304) :
    InPlace response response :=
  ⟨fun status => absurd status told, fun _ => rfl⟩

/-! ## What does not depend on the conditions -/

/-- **Only what becomes of a file depends on the conditions.** -/
theorem reply_of_file?_eq_none (h : way.file? = none) (target : f.target = g.target)
    (isHead : f.isHead = g.isHead) : way.reply fs f = way.reply fs g := by
  cases way with
  | missing | withheld => rfl
  | outside => rw [Route.reply, Route.reply, target]
  | redirect => rw [Route.reply, Route.reply, target]
  | listing directory title => rw [Route.reply, Route.reply, isHead]
  | file q e' => cases h
  | index q e' => cases h

theorem fetchOf_unconditional (r : Request) :
    (fetchOf r.unconditional).target = (fetchOf r).target ∧
      (fetchOf r.unconditional).isHead = (fetchOf r).isHead ∧
      (fetchOf r.unconditional).conditions.modifiedSince = none := by
  refine ⟨rfl, rfl, ?_⟩
  exact Request.headerText?_of_values_eq_nil (Headers.values_without _ _)

/-- What is no request for a file or a directory is answered without its headers. -/
theorem plainReply_unconditional_of_not_isFetch (other : ¬ site.IsFetch r) :
    site.plainReply fs r.unconditional = site.plainReply fs r := by
  cases probe : site.settings.isProbe r.target with
  | true =>
      have same : site.settings.isProbe r.unconditional.target = true := probe
      rw [plainReply, plainReply, if_pos probe, if_pos same]
  | false =>
      have same : site.settings.isProbe r.unconditional.target = false := probe
      rw [plainReply, plainReply, probe, same, dispatch, dispatch]
      have method : r.unconditional.method = r.method := rfl
      rw [method]
      cases named : r.method with
      | get => exact absurd ⟨Or.inl named, probe⟩ other
      | head => exact absurd ⟨Or.inr named, probe⟩ other
      | options => rfl
      | other name => rfl

/-! ## Which answers are 304 -/

theorem status_ne_of_file?_eq_none (h : way.file? = none) (served : way.reply fs f = .ok reply) :
    reply.response.status ≠ 304 := by
  cases way with
  | missing | outside | withheld =>
      rw [response_of_refused rfl served, Reply.status_notFound]
      decide
  | redirect =>
      cases served
      intro told
      rcases Reply.status_ofBuild "301" 301
        [("Location", String.ofList (withSolidus f.target)), ("Content-Length", "0")] []
        with moved | fallback
      · exact absurd (moved.symm.trans told) (by decide)
      · exact absurd (fallback.symm.trans told) (by decide)
  | listing directory title =>
      obtain rfl := Except.ok.inj served
      intro told
      rcases status_listingReply fs directory title f.isHead with page | absent
      · exact absurd (page.symm.trans told) (by decide)
      · exact absurd (absent.symm.trans told) (by decide)
  | file q e' => cases h
  | index q e' => cases h

theorem status_ne_of_not_isFetch (other : ¬ site.IsFetch r)
    (plain : site.plainReply fs r = .ok reply) : reply.response.status ≠ 304 := by
  rcases status_of_not_isFetch other plain with status | status
  · rw [status]
    decide
  · rw [status]
    decide

theorem status_ne_of_stale (there : fs.stat p = .ok e)
    (stale : f.conditions.current e.modified = .ok false) (served : serveFile fs f p e = .ok reply) :
    reply.response.status ≠ 304 := by
  obtain ⟨date, -, ⟨current, -⟩ | ⟨-, ⟨content, -, rfl⟩ | ⟨refusal, -, rfl⟩⟩⟩ :=
    serveFile_cases there served
  · rw [stale] at current
    cases current
  · intro told
    rcases Reply.status_ofBuild "200" 200 _ _ with sent | sent
    · exact absurd (sent.symm.trans told) (by decide)
    · exact absurd (sent.symm.trans told) (by decide)
  · show Reply.notFound.response.status ≠ 304
    rw [Reply.status_notFound]
    decide

/-! ## What becomes of a file -/

/-- Of one file there is only one thing to ask: whether it is current and cannot be opened. -/
theorem exists_unopened_iff (file : (site.route fs r.target).file? = some (p, e)) :
    (∃ q e', site.Unopened fs r q e') ↔
      (fetchOf r).conditions.current e.modified = .ok true ∧
        ∃ refusal, e.content = .error refusal := by
  constructor
  · rintro ⟨q, e', unopened⟩
    obtain ⟨rfl, rfl⟩ := Prod.mk.inj (Option.some.inj (file.symm.trans unopened.file))
    exact ⟨unopened.current, unopened.refused⟩
  · rintro ⟨current, refused⟩
    exact ⟨p, e, file, current, refused⟩

theorem stale_unconditional (r : Request) (modified : Instant) :
    (fetchOf r.unconditional).conditions.current modified = .ok false :=
  Conditions.current_of_modifiedSince_eq_none (fetchOf_unconditional r).2.2

/-- A file of which no copy is current is served the same without the date. -/
theorem serveFile_unconditional (stale : (fetchOf r).conditions.current e.modified = .ok false) :
    serveFile fs (fetchOf r.unconditional) p e = serveFile fs (fetchOf r) p e := by
  have isHead : (fetchOf r.unconditional).isHead = (fetchOf r).isHead :=
    (fetchOf_unconditional r).2.1
  rw [serveFile, serveFile, stale_unconditional, stale, isHead]

/-- **A request for no file that is current is answered without its date as with it.** -/
theorem plainReply_unconditional_of_stale
    (stale : site.IsFetch r → ∀ p e, (site.route fs r.target).file? = some (p, e) →
      (fetchOf r).conditions.current e.modified ≠ .ok true) :
    site.plainReply fs r.unconditional = site.plainReply fs r ∧
      ∀ reply, site.plainReply fs r = .ok reply → reply.response.status ≠ 304 := by
  by_cases fetch : site.IsFetch r
  · have fetch' : site.IsFetch r.unconditional := fetch
    have target : r.unconditional.target = r.target := rfl
    rw [plainReply_of_isFetch fetch, plainReply_of_isFetch fetch', target]
    cases file : (site.route fs r.target).file? with
    | none =>
        obtain ⟨same, isHead, -⟩ := fetchOf_unconditional r
        exact ⟨reply_of_file?_eq_none file same isHead,
          fun _ => status_ne_of_file?_eq_none file⟩
    | some found =>
        obtain ⟨p, e⟩ := found
        rw [reply_of_file? file, reply_of_file? file]
        cases dated : e.modified.httpDate with
        | error outside =>
            rw [serveFile_of_httpDate_error dated, serveFile_of_httpDate_error dated]
            exact ⟨rfl, fun _ none_ => nomatch none_⟩
        | ok date =>
            obtain ⟨current, decided⟩ :=
              Conditions.exists_current (Instant.of_httpDate dated).1 (fetchOf r).conditions
            cases current with
            | true => exact absurd decided (stale fetch p e file)
            | false =>
                exact ⟨serveFile_unconditional decided,
                  fun _ => status_ne_of_stale (stat_of_file? file).1 decided⟩
  · exact ⟨plainReply_unconditional_of_not_isFetch fetch,
      fun _ => status_ne_of_not_isFetch fetch⟩

theorem inPlace_opened (content : Bytes) (isHead : Bool) {date : String}
    (visible : Header.isVisible date.toList = true) :
    InPlace (Reply.file content (MediaType.ofPath p) (some date) isHead).withPreview.response
      (Reply.notModified date).withPreview.response := by
  have sent : (Reply.file content (MediaType.ofPath p) (some date)
      isHead).withPreview.response.status = 200 := by
    rw [Reply.status_withPreview, Reply.file_eq content isHead (isVisible_ofPath p) visible]
  have confirms := Reply.confirms_notModified visible
  constructor
  · intro _
    have dated := Reply.values_file p content isHead visible
    exact ⟨sent, _, dated, confirms.date⟩
  · intro other
    exact absurd confirms.status other

/-- A 304 for a file that cannot be opened stands in place of none. -/
theorem not_inPlace_unopened (notice : Notice) {date : String}
    (visible : Header.isVisible date.toList = true) :
    ¬ InPlace (notFoundBecause notice).withPreview.response
      (Reply.notModified date).withPreview.response := by
  intro inPlace
  have absent : (notFoundBecause notice).withPreview.response.status = 404 := by
    rw [Reply.status_withPreview, response_notFoundBecause, Reply.status_notFound]
  have same := inPlace.eq_of_undated (Or.inl (by rw [absent]; decide))
  have told := (Reply.confirms_notModified visible).status
  rw [same, absent] at told
  exact absurd told (by decide)

/-! ## The two answers -/

/-- Replies to a request with and without its date: the one is in place for the other
exactly when the request is for no unopened file. -/
def Agree (site : Site) (fs : FileSystem) (r : Request) :
    Except OutsideCalendar Reply → Except OutsideCalendar Reply → Prop
  | .ok conditional, .ok plain =>
      InPlace plain.withPreview.response conditional.withPreview.response ↔
        ¬ (site.IsFetch r ∧ ∃ p e, site.Unopened fs r p e)
  | .error outside, .error outside' => outside = outside'
  | _, _ => False

/-- Replies that are the same, and not 304, to a request for no unopened file. -/
theorem agree_of_eq {result result' : Except OutsideCalendar Reply} (same : result' = result)
    (told : ∀ reply, result = .ok reply → reply.response.status ≠ 304)
    (none_ : ¬ (site.IsFetch r ∧ ∃ p e, site.Unopened fs r p e)) :
    Agree site fs r result result' := by
  subst same
  cases result' with
  | error outside => rfl
  | ok reply => exact ⟨fun _ => none_, fun _ => inPlace_refl (told reply rfl)⟩

/-- **What becomes of a file of which the copy is current.**  With the date it is not opened;
only without it does it matter what it holds. -/
theorem agree_current (fetch : site.IsFetch r)
    (file : (site.route fs r.target).file? = some (p, e))
    (current : (fetchOf r).conditions.current e.modified = .ok true) :
    Agree site fs r (serveFile fs (fetchOf r) p e) (serveFile fs (fetchOf r.unconditional) p e) := by
  have there := (stat_of_file? file).1
  have unopened := exists_unopened_iff file
  cases dated : e.modified.httpDate with
  | error outside =>
      rw [serveFile_of_httpDate_error dated, serveFile_of_httpDate_error dated]
      rfl
  | ok date =>
      have visible := isVisible_of_httpDate dated
      rw [serveFile_current dated current]
      cases content : e.content with
      | ok data =>
          rw [serveFile_opened there dated (stale_unconditional r _) content]
          have none_ : ¬ (site.IsFetch r ∧ ∃ p e, site.Unopened fs r p e) := by
            rw [unopened, content]
            rintro ⟨-, -, refusal, ⟨⟩⟩
          exact ⟨fun _ => none_, fun _ => inPlace_opened data _ visible⟩
      | error refusal =>
          rw [serveFile_unopened there dated (stale_unconditional r _) content]
          have some_ : site.IsFetch r ∧ ∃ p e, site.Unopened fs r p e :=
            ⟨fetch, unopened.2 ⟨current, refusal, content⟩⟩
          exact ⟨fun inPlace => absurd inPlace (not_inPlace_unopened _ visible),
            fun none_ => absurd some_ none_⟩

theorem agree_plainReply (site : Site) (fs : FileSystem) (r : Request) :
    Agree site fs r (site.plainReply fs r) (site.plainReply fs r.unconditional) := by
  by_cases stale : site.IsFetch r → ∀ p e, (site.route fs r.target).file? = some (p, e) →
      (fetchOf r).conditions.current e.modified ≠ .ok true
  · obtain ⟨same, told⟩ := plainReply_unconditional_of_stale stale
    apply agree_of_eq same told
    rintro ⟨fetch, p, e, unopened⟩
    exact stale fetch p e unopened.file unopened.current
  · simp only [Classical.not_imp, Classical.not_forall, Classical.not_not, ne_eq] at stale
    obtain ⟨fetch, p, e, file, current⟩ := stale
    have fetch' : site.IsFetch r.unconditional := fetch
    have target : r.unconditional.target = r.target := rfl
    rw [plainReply_of_isFetch fetch, plainReply_of_isFetch fetch', target, reply_of_file? file,
      reply_of_file? file]
    exact agree_current fetch file current

/-- **An answer with 304 stands in place of a 200, but for a file that cannot be opened.**
Whatever a request is for, its answer is in place for the one that it would get without
its date, exactly unless it is for a file as old as the date that cannot be opened; and if
one of the two requests is not answered neither is the other. -/
theorem inPlace_iff_not_unopened (site : Site) (fs : FileSystem) (r : Request) (t t' : Timing) :
    match site.handle fs r t, site.handle fs r.unconditional t' with
    | .ok conditional, .ok plain =>
        InPlace plain.response conditional.response ↔
          ¬ (site.IsFetch r ∧ ∃ p e, site.Unopened fs r p e)
    | .error outside, .error outside' => outside = outside'
    | _, _ => False := by
  have agree := agree_plainReply site fs r
  rw [handle_eq, handle_eq]
  cases conditional : site.plainReply fs r with
  | error outside =>
      rw [conditional] at agree
      cases plain : site.plainReply fs r.unconditional with
      | error outside' =>
          rw [plain] at agree
          exact agree
      | ok reply =>
          rw [plain] at agree
          exact agree
  | ok reply =>
      rw [conditional] at agree
      cases plain : site.plainReply fs r.unconditional with
      | error outside' =>
          rw [plain] at agree
          exact agree
      | ok reply' =>
          rw [plain] at agree
          exact agree

namespace Example

/-- A tree with a socket that was made in the second 784111777. -/
def oneSocket : FileSystem where
  entries := [([Bytes.ofString "s"], { node := .socket, modified := .ofSeconds 784111777 })]

/-- The date of that second. -/
def date1994 : Bytes := Bytes.ofString "Sun, 06 Nov 1994 08:49:37 GMT"

/-- A request for the socket with its date. -/
def dated : Request where
  target := "/s".toList
  headers := ⟨[{ name := "if-modified-since", value := date1994 }]⟩
  peer := { ip := .v4 127 0 0 1, port := 50000 }

end Example

/-- **A 304 need not stand in place of a 200**: a socket, which cannot be opened, is
answered with 304 for a client that has its date, and with 404 for any other. -/
theorem not_inPlace_of_socket :
    ∃ conditional plain,
      Example.atTop.handle Example.oneSocket Example.dated Example.timing = .ok conditional ∧
      Example.atTop.handle Example.oneSocket Example.dated.unconditional Example.timing =
        .ok plain ∧
      conditional.response.status = 304 ∧ plain.response.status = 404 ∧
      ¬ InPlace plain.response conditional.response := by
  have first : ((Example.atTop.handle Example.oneSocket Example.dated
      Example.timing).toOption.map fun x => x.response.status) = some 304 := by
    decide +kernel
  have second : ((Example.atTop.handle Example.oneSocket Example.dated.unconditional
      Example.timing).toOption.map fun x => x.response.status) = some 404 := by
    decide +kernel
  obtain ⟨conditional, handled, told⟩ := exists_of_toOption_map first
  obtain ⟨plain, handled', absent⟩ := exists_of_toOption_map second
  refine ⟨conditional, plain, handled, handled', told, absent, ?_⟩
  intro inPlace
  have whole := (inPlace.replaced told).1
  rw [absent] at whole
  exact absurd whole (by decide)

end Site

end StaticPreview
