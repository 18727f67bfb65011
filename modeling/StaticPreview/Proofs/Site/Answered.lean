/-
# StaticPreview.Proofs.Site.Answered -- which requests are answered

One thing only keeps a request from being answered: that it leads to a file whose time has
no date (`Site.AsksUndated`).  The date of a file is asked for before anything else is
(`exists_serveFile_iff`), every other way of answering gives a reply, and so there is an
answer exactly when the request does not ask for such a file: `exists_handle_iff`.

Where all the times of a file system have dates nothing of the kind can be asked for
(`not_asksUndated`).
-/
import StaticPreview.Proofs.FileSystem.Order
import StaticPreview.Proofs.Site.File

namespace StaticPreview

open Time

/-! ## Times that have dates -/

/-- A file system with times that dates can be written for. -/
def FileSystem.Dated (fs : FileSystem) : Prop :=
  ∀ entry ∈ fs.entries, inCalendar entry.2.modified.seconds = true

theorem FileSystem.Dated.inCalendar_of_stat {fs : FileSystem} (dated : fs.Dated) {p : Bytes}
    {e : Entry} (there : fs.stat p = .ok e) : inCalendar e.modified.seconds = true := by
  obtain ⟨l, -, found⟩ := canonical_of_stat there
  unfold find? at found
  split at found
  · rw [← Option.some.inj found]
    decide
  · exact dated _ (mem_of_lookup found)

namespace Site

variable {site : Site} {fs : FileSystem} {f : Fetch} {r : Request} {t : Timing} {p : Bytes}
  {e : Entry} {way : Route}

/-! ## Replies that there are -/

/-- **A file is answered for exactly when its time has a date**, current, readable or not. -/
theorem exists_serveFile_iff :
    (∃ reply, serveFile fs f p e = .ok reply) ↔ inCalendar e.modified.seconds = true := by
  constructor
  · rintro ⟨reply, served⟩
    obtain ⟨date, dated, -⟩ := exists_of_bind_eq_ok served
    exact (Instant.of_httpDate dated).1
  · intro calendar
    obtain ⟨date, dated⟩ := Instant.exists_httpDate calendar
    obtain ⟨current, decided⟩ := Conditions.exists_current calendar f.conditions
    rw [serveFile, bind_of_eq_ok dated, bind_of_eq_ok decided]
    cases current with
    | true => exact ⟨_, rfl⟩
    | false => cases fs.read p <;> exact ⟨_, rfl⟩

/-- Every way of answering that does not end in a file gives a reply. -/
theorem exists_reply_of_file?_eq_none (h : way.file? = none) (fs : FileSystem) (f : Fetch) :
    ∃ reply, way.reply fs f = .ok reply := by
  cases way with
  | file | index => cases h
  | missing | outside | redirect | listing | withheld => exact ⟨_, rfl⟩

/-! ## Requests that are answered -/

/-- A request that leads to a file whose time has no date. -/
def AsksUndated (site : Site) (fs : FileSystem) (r : Request) : Prop :=
  site.IsFetch r ∧ ∃ p e, (site.route fs r.target).file? = some (p, e) ∧
    inCalendar e.modified.seconds = false

/-- **There is an answer exactly when the request does not lead to a file whose time has no
date.** -/
theorem exists_handle_iff :
    (∃ x, site.handle fs r t = .ok x) ↔ ¬ site.AsksUndated fs r := by
  have answered : (∃ x, site.handle fs r t = .ok x) ↔ ∃ reply, site.plainReply fs r = .ok reply := by
    rw [handle_eq]
    cases site.plainReply fs r with
    | ok reply => simp [Except.map]
    | error outside => simp [Except.map]
  rw [answered]
  by_cases fetch : site.IsFetch r
  · rw [plainReply_of_isFetch fetch]
    cases file : (site.route fs r.target).file? with
    | none =>
        have plain : ¬ site.AsksUndated fs r := by
          rintro ⟨-, p, e, there, -⟩
          rw [file] at there
          cases there
        exact iff_of_true (exists_reply_of_file?_eq_none file fs _) plain
    | some found =>
        obtain ⟨p, e⟩ := found
        rw [reply_of_file? file, exists_serveFile_iff]
        constructor
        · rintro calendar ⟨-, p', e', there, outside⟩
          rw [file] at there
          cases there
          rw [calendar] at outside
          cases outside
        · intro dated
          rw [← Bool.not_eq_false]
          intro outside
          exact dated ⟨fetch, p, e, file, outside⟩
  · obtain ⟨reply, plain, -⟩ := exists_plainReply_of_not_isFetch fetch fs
    refine iff_of_true ⟨reply, plain⟩ ?_
    rintro ⟨asked, -⟩
    exact fetch asked

theorem not_asksUndated (dated : fs.Dated) : ¬ site.AsksUndated fs r := by
  rintro ⟨-, p, e, file, outside⟩
  rw [dated.inCalendar_of_stat (stat_of_file? file).1] at outside
  cases outside

end Site

end StaticPreview
