/-
# StaticPreview.Proofs.Site.Tags -- a condition on tags and a date in one request

A request may say which tags it has a copy for, and from when the copy is.  Tags come
first: since none are given out, a request that names some should be answered as if it had
no date, and never with 304 (`DateDisregarded`).

Whether tags were named is seen from the text of their field, and a value with a byte
beyond ASCII, which a tag may have, is no text (`Request.Unread`); such a request is taken
for one that names no tags.  `dateDisregarded_iff` says that this is the one way in which
the date counts after all, and that it always does when the copy is current by its date.
Every other request is answered from a file of which no copy is current, and there the date
changes nothing (`plainReply_unconditional_of_stale`).
-/
import StaticPreview.Proofs.Site.Conditional
import StaticPreview.Proofs.Site.Revalidation

namespace StaticPreview

open Time

/-! ## Fields that stay -/

theorem Headers.get?_without_of_ne (hs : Headers) {name other : String} (h : other ≠ name) :
    (hs.without name).get? other = hs.get? other := by
  rw [get?, get?, without, List.find?_filter]
  congr 1
  funext field
  by_cases named : field.name = other
  · simp [named, h]
  · simp [named]

namespace Request

variable {r : Request} {name : String}

theorem headerText?_unconditional_of_ne (r : Request) {name : String}
    (h : name ≠ "if-modified-since") :
    r.unconditional.headerText? name = r.headerText? name := by
  rw [headerText?, headerText?, unconditional, Headers.get?_without_of_ne _ h]

/-- The first field of a name is not a visible text. -/
def Unread (r : Request) (name : String) : Prop :=
  ∃ field, r.headers.get? name = some field ∧ ∃ b ∈ field.value, Header.isVisibleByte b = false

/-- **A field that was sent is not seen exactly when it is not a visible text.** -/
theorem headerText?_eq_none_iff (sent : r.headers.values name ≠ []) :
    r.headerText? name = none ↔ r.Unread name := by
  have there : ∃ field, r.headers.get? name = some field := by
    rw [← Option.isSome_iff_exists, Headers.get?, List.find?_isSome]
    obtain ⟨value, member⟩ := List.exists_mem_of_ne_nil _ sent
    obtain ⟨field, kept, -⟩ := List.mem_map.1 member
    obtain ⟨listed, named⟩ := List.mem_filter.1 kept
    exact ⟨field, listed, named⟩
  obtain ⟨field, first⟩ := there
  have text : r.headerText? name = field.text? := by
    rw [headerText?, first]
    rfl
  rw [text, Field.text?, Unread, first]
  constructor
  · intro none_
    split at none_
    · cases none_
    · rename_i hidden
      obtain ⟨b, member, control⟩ := List.all_eq_false.1 (Bool.eq_false_iff.2 hidden)
      exact ⟨field, rfl, b, member, Bool.eq_false_iff.2 control⟩
  · rintro ⟨_, ⟨⟩, b, member, control⟩
    rw [if_neg]
    intro visible
    rw [List.all_eq_true.1 visible b member] at control
    cases control

end Request

namespace Conditions

variable {c : Conditions} {t : Instant}

theorem current_of_noneMatch {tags : String} (h : c.noneMatch = some tags) :
    c.current t = .ok false := by
  unfold current
  rw [h]
  rfl

/-- Only of what has a date a copy is current. -/
theorem inCalendar_of_current (h : c.current t = .ok true) : inCalendar t.seconds = true := by
  unfold current at h
  split at h
  · cases h
  · split at h
    · cases h
    · split at h
      · assumption
      · cases h

end Conditions

namespace Site

variable {site : Site} {fs : FileSystem} {r : Request} {t : Timing} {p : Bytes} {e : Entry}

/-- A request that is answered as if it had no date, and never with 304. -/
structure DateDisregarded (site : Site) (fs : FileSystem) (r : Request) : Prop where
  told : ∀ t x, site.handle fs r t = .ok x → x.response.status ≠ 304
  same : ∀ t, site.handle fs r t = site.handle fs r.unconditional t

/-- A request for a file of which the client has a current copy, by the date alone. -/
def CurrentByDate (site : Site) (fs : FileSystem) (r : Request) : Prop :=
  site.IsFetch r ∧ ∃ p e, (site.route fs r.target).file? = some (p, e) ∧
    Conditions.current { modifiedSince := r.headerText? "if-modified-since" } e.modified = .ok true

/-! ## What the date is looked at for -/

theorem exchangeOf_unconditional (site : Site) (r : Request) (t : Timing) :
    site.exchangeOf r.unconditional t = site.exchangeOf r t := by
  have referer : r.unconditional.headerText? "referer" = r.headerText? "referer" :=
    r.headerText?_unconditional_of_ne (by decide)
  have agent : r.unconditional.headerText? "user-agent" = r.headerText? "user-agent" :=
    r.headerText?_unconditional_of_ne (by decide)
  have entry (response : Response) :
      accessEntry r.unconditional response t = accessEntry r response t := by
    rw [accessEntry, accessEntry, referer, agent]
    rfl
  funext reply
  rw [exchangeOf, exchangeOf, accessLines, accessLines, entry]
  rfl

theorem dateDisregarded_of_stale
    (stale : site.IsFetch r → ∀ p e, (site.route fs r.target).file? = some (p, e) →
      (fetchOf r).conditions.current e.modified ≠ .ok true) : site.DateDisregarded fs r := by
  obtain ⟨same, told⟩ := plainReply_unconditional_of_stale stale
  refine ⟨?_, ?_⟩
  · intro t x handled
    obtain ⟨reply, plain, rfl⟩ := exists_reply_of_handle handled
    exact told reply plain
  · intro t
    rw [handle_eq, handle_eq, same, exchangeOf_unconditional]

/-- A copy that is current by its date is confirmed when no tags are seen. -/
theorem exists_confirmed (current : site.CurrentByDate fs r)
    (unseen : r.headerText? "if-none-match" = none) (t : Timing) :
    ∃ x, site.handle fs r t = .ok x ∧ x.response.status = 304 := by
  obtain ⟨fetch, p, e, file, current⟩ := current
  obtain ⟨date, dated⟩ := Instant.exists_httpDate (Conditions.inCalendar_of_current current)
  have conditions : (fetchOf r).conditions.current e.modified = .ok true := by
    rw [fetchOf, Fetch.ofRequest, unseen]
    exact current
  obtain ⟨x, handled, confirms⟩ := handle_current fetch file dated conditions t
  exact ⟨x, handled, confirms.status⟩

/-- **A request that names tags is answered as if it had no date, but for one whose tags
are no text.**  Whatever the request, the file system and the site, and however many
fields of that name there are: the date is disregarded exactly unless the first of them
has a byte that is not visible and the request is for a file of which the copy is current
by its date, and that one is answered with 304. -/
theorem dateDisregarded_iff (tagged : r.headers.values "if-none-match" ≠ []) :
    site.DateDisregarded fs r ↔ ¬ (r.Unread "if-none-match" ∧ site.CurrentByDate fs r) := by
  constructor
  · rintro disregarded ⟨unread, current⟩
    have unseen := (Request.headerText?_eq_none_iff tagged).2 unread
    obtain ⟨x, handled, status⟩ := exists_confirmed current unseen Example.timing
    exact disregarded.told Example.timing x handled status
  · intro seldom
    apply dateDisregarded_of_stale
    intro fetch p e file current
    cases seen : r.headerText? "if-none-match" with
    | some tags =>
        have first : (fetchOf r).conditions.noneMatch = some tags := seen
        rw [Conditions.current_of_noneMatch first] at current
        cases current
    | none =>
        refine seldom ⟨(Request.headerText?_eq_none_iff tagged).1 seen, fetch, p, e, file, ?_⟩
        rw [fetchOf, Fetch.ofRequest, seen] at current
        exact current

namespace Example

/-- A tree with a file that was written in the second 784111777. -/
def aged : FileSystem := oneFile "new" (.ofSeconds 784111777)

/-- A request for the file with a tag and the date of that second. -/
def tagged (tag : Bytes) : Request where
  target := "/a.txt".toList
  headers := ⟨[{ name := "if-none-match", value := tag },
    { name := "if-modified-since", value := date1994 }]⟩
  peer := { ip := .v4 127 0 0 1, port := 50000 }

theorem currentByDate_tagged (tag : Bytes) : atTop.CurrentByDate aged (tagged tag) := by
  have visible : Header.isVisible "Sun, 06 Nov 1994 08:49:37 GMT".toList = true := by decide
  have since : (tagged tag).headerText? "if-modified-since" =
      some "Sun, 06 Nov 1994 08:49:37 GMT" :=
    Field.text?_ofString "if-modified-since" visible
  have noProbe : atTop.settings.isProbe "/a.txt".toList = false := by decide
  have file : (atTop.route aged "/a.txt".toList).file? =
      some (Bytes.ofString "/a.txt",
        { node := .file (Bytes.ofString "new"), modified := .ofSeconds 784111777 }) := by
    decide +kernel
  refine ⟨⟨Or.inl rfl, noProbe⟩, _, _, file, ?_⟩
  rw [since]
  exact eq_ok_of_toOption (by decide +kernel)

end Example

/-- A tag in quotes does away with a date by which the copy is current. -/
theorem dateDisregarded_quotedTag :
    Example.atTop.CurrentByDate Example.aged (Example.tagged (Bytes.ofString "\"abc\"")) ∧
    Example.atTop.DateDisregarded Example.aged (Example.tagged (Bytes.ofString "\"abc\"")) := by
  refine ⟨Example.currentByDate_tagged _, ?_⟩
  apply (dateDisregarded_iff (by simp [Example.tagged, Headers.values])).2
  rintro ⟨⟨field, first, b, member, hidden⟩, -⟩
  obtain rfl := Option.some.inj first
  have visible : (Bytes.ofString "\"abc\"").all Header.isVisibleByte = true := by decide
  rw [List.all_eq_true.1 visible b member] at hidden
  cases hidden

/-- **A tag need not do away with the date**: one with a byte from beyond ASCII, which tags
may have, is not seen, and the client is told that its copy is current. -/
theorem not_dateDisregarded_of_byteE9 :
    (Example.tagged [0x22, 0xE9, 0x22]).headers.values "if-none-match" = [[0x22, 0xE9, 0x22]] ∧
    [0x22, 0xE9, 0x22].all Header.isValueByte = true ∧
    (∃ x, Example.atTop.handle Example.aged (Example.tagged [0x22, 0xE9, 0x22]) Example.timing =
      .ok x ∧ x.response.status = 304) ∧
    ¬ Example.atTop.DateDisregarded Example.aged (Example.tagged [0x22, 0xE9, 0x22]) := by
  have confirmed := exists_confirmed
    (Example.currentByDate_tagged [0x22, 0xE9, 0x22]) (by decide) Example.timing
  refine ⟨by decide, by decide, confirmed, ?_⟩
  intro disregarded
  obtain ⟨x, handled, status⟩ := confirmed
  exact disregarded.told Example.timing x handled status

end Site

end StaticPreview
