/-
# StaticPreview.Proofs.Site.Noted -- what the error log says of a request

An answer gives rise to one notice at most, and its line begins with how grave it is
(`errors_exchangeOf`, `Notice.Labelled`).  A notice is made of fixed texts, the text of a
numbered failure, the target as it was sent and the path that was looked up.  None of the
first three breaks a line, but the path may: a name of a file can hold a line end, and
a target can ask for it by an escape.

Only two notices show a path: that of a file that cannot be opened and that of a
directory that cannot be listed (`Route.Shows`).  So the error log gets nothing or one
whole line exactly when the path that is shown, if one is, holds no line end: `noted_iff`.
-/
import StaticPreview.Proofs.Site.Answered
import StaticPreview.Proofs.Request.Accepted
import StaticPreview.Proofs.Text.Lossy

namespace StaticPreview

open StaticPreview.Text
open Time

/-! ## Lines -/

/-- How grave a notice is stands at the front of its line. -/
def Notice.Labelled (line : String) : Prop :=
  "[ERROR] ".toList <+: line.toList ∨ "[WARN] ".toList <+: line.toList

theorem Notice.labelled_line (n : Notice) : Labelled n.line := by
  cases n with
  | error message =>
      left
      rw [line, String.toList_append]
      exact List.prefix_append _ _
  | warning message =>
      right
      rw [line, String.toList_append]
      exact List.prefix_append _ _

/-- What a notice says behind that. -/
def Notice.said : Notice → String
  | .error message => message
  | .warning message => message

theorem Notice.mem_line (n : Notice) : '\n' ∈ n.line.toList ↔ '\n' ∈ n.said.toList := by
  cases n <;> simp [line, said]

/-- The failures of opening what is there. -/
def IoError.ofOpening : List IoError := [.noPermission, .isDirectory, .noDevice, .tooManyLinks]

/-- None of their texts breaks a line. -/
theorem IoError.not_mem_message {refusal : IoError} (opening : refusal ∈ ofOpening) :
    '\n' ∉ refusal.message.toList := by
  have all : ∀ refusal ∈ ofOpening, '\n' ∉ refusal.message.toList := by decide +kernel
  exact all refusal opening

/-- A path is shown with a line end exactly when it holds one. -/
theorem Bytes.mem_toStringLossy (p : Bytes) : '\n' ∈ (toStringLossy p).toList ↔ 0x0A ∈ p := by
  rw [toStringLossy, String.toList_ofList]
  exact Utf8.mem_decodeLossy_ascii (b := 0x0A) (by decide) (by decide) p

theorem Entry.mem_ofOpening {e : Entry} {refusal : IoError} (closed : e.content = .error refusal) :
    refusal ∈ IoError.ofOpening := by
  unfold content at closed
  split at closed
  · simp [IoError.ofOpening, ← Except.error.inj closed]
  · split at closed
    · cases closed
    · cases closed
    · simp [IoError.ofOpening, ← Except.error.inj closed]
    · simp [IoError.ofOpening, ← Except.error.inj closed]
    · simp [IoError.ofOpening, ← Except.error.inj closed]

namespace Site

variable {site : Site} {fs : FileSystem} {f : Fetch} {r : Request} {t : Timing} {reply : Reply}
  {target : List Char} {p directory : Bytes} {title : List Char} {refusal : IoError}

theorem mem_ofOpening_of_render (folder : fs.leadsToDirectory directory = true)
    (closed : Listing.render fs directory title = .error refusal) :
    refusal ∈ IoError.ofOpening := by
  obtain ⟨e, there, isDirectory⟩ := leadsToDirectory_iff.1 folder
  obtain ⟨l, found, entry⟩ := exists_of_bind_eq_ok there
  rw [Listing.render, FileSystem.list, bind_of_eq_ok found, bind_of_eq_ok entry, isDirectory] at closed
  cases locked : e.locked with
  | true =>
      rw [locked] at closed
      simp [IoError.ofOpening, ← Except.error.inj closed]
  | false =>
      rw [locked] at closed
      cases closed

/-! ## Notices -/

/-- The one notice of a reply that has a notice. -/
theorem notices_notFoundBecause (n : Notice) : (notFoundBecause n).notices = [n] := by
  have quiet : Reply.notFound.notices = [] := by decide +kernel
  rw [notFoundBecause, quiet]
  rfl

/-- A builder notes nothing, or that it could not build what it is named for. -/
theorem notices_ofBuild {label : String} (unbroken : '\n' ∉ label.toList)
    (built : Except Header.Refusal Response) (spare : Bytes := []) :
    (Reply.ofBuild label built spare).notices = [] ∨
      ∃ n, (Reply.ofBuild label built spare).notices = [n] ∧ '\n' ∉ n.line.toList := by
  cases built with
  | ok response => exact Or.inl rfl
  | error why =>
      refine Or.inr ⟨_, rfl, ?_⟩
      have text : '\n' ∉ why.message.toList := by cases why <;> decide
      simp [Notice.mem_line, Notice.said, unbroken, text]

/-- The path that the notice of a way of answering shows. -/
inductive Route.Shows (fs : FileSystem) (f : Fetch) (way : Route) : Bytes → Prop where
  /-- A file that cannot be opened, and of which no copy is current. -/
  | unopened {p : Bytes} {e : Entry} {refusal : IoError} (file : way.file? = some (p, e))
      (stale : f.conditions.current e.modified = .ok false) (closed : e.content = .error refusal) :
      Shows fs f way p
  /-- A directory that cannot be listed. -/
  | unlisted {directory : Bytes} {title : List Char} {refusal : IoError}
      (listing : way = .listing directory title)
      (closed : Listing.render fs directory title = .error refusal) : Shows fs f way directory

/-- **The path that is shown breaks the line of the one notice or keeps it whole.** -/
theorem notices_of_shows (shown : (site.route fs target).Shows fs f p)
    (h : (site.route fs target).reply fs f = .ok reply) :
    ∃ n, reply.notices = [n] ∧ ('\n' ∈ n.line.toList ↔ 0x0A ∈ p) := by
  cases shown with
  | unopened file stale closed =>
      have text := IoError.not_mem_message (Entry.mem_ofOpening closed)
      have there := (stat_of_file? file).1
      rw [reply_of_file? file] at h
      obtain ⟨date, dated, -⟩ := exists_of_bind_eq_ok h
      rw [serveFile_unopened there dated stale closed] at h
      cases h
      refine ⟨_, notices_notFoundBecause _, ?_⟩
      simp [Notice.mem_line, Notice.said, Bytes.mem_toStringLossy, text]
  | unlisted listing closed =>
      have taken := taken_route site fs target
      rw [listing] at h taken
      obtain ⟨⟨folder, -⟩, -, -, -, rfl, -⟩ := taken
      have text := IoError.not_mem_message (mem_ofOpening_of_render folder closed)
      cases h
      refine ⟨_, by rw [listingReply, closed]; exact notices_notFoundBecause _, ?_⟩
      simp [Notice.mem_line, Notice.said, Bytes.mem_toStringLossy, text]

/-- **Without a path that is shown, no line is broken.** -/
theorem notices_of_not_shows (hidden : ∀ p, ¬ (site.route fs f.target).Shows fs f p)
    (unbroken : '\n' ∉ f.target) (h : (site.route fs f.target).reply fs f = .ok reply) :
    reply.notices = [] ∨ ∃ n, reply.notices = [n] ∧ '\n' ∉ n.line.toList := by
  cases file : (site.route fs f.target).file? with
  | some found =>
      obtain ⟨p, e⟩ := found
      rw [reply_of_file? file] at h
      obtain ⟨date, -, ⟨-, rfl⟩ | ⟨stale, ⟨content, -, rfl⟩ | ⟨refusal, closed, -⟩⟩⟩ :=
        serveFile_cases (stat_of_file? file).1 h
      · exact notices_ofBuild (by decide) _
      · exact notices_ofBuild (by decide) _
      · exact absurd (.unopened file stale closed) (hidden p)
  | none =>
      cases way : site.route fs f.target with
      | file | index =>
          rw [way] at file
          cases file
      | missing | withheld =>
          rw [way] at h
          cases h
          exact notices_ofBuild (by decide) _ _
      | outside =>
          rw [way] at h
          cases h
          refine Or.inr ⟨_, notices_notFoundBecause _, ?_⟩
          simp [outsideNotice, Notice.mem_line, Notice.said, unbroken]
      | redirect =>
          rw [way] at h
          cases h
          exact notices_ofBuild (by decide) _
      | listing directory title =>
          rw [way] at hidden h
          cases h
          unfold listingReply
          cases listed : Listing.render fs directory title with
          | error refusal => exact absurd (.unlisted rfl listed) (hidden directory)
          | ok page => exact notices_ofBuild (by decide) _

/-- What is no request for a file or a directory shows no path. -/
theorem notices_of_not_isFetch (other : ¬ site.IsFetch r) (accepted : r.Accepted)
    (plain : site.plainReply fs r = .ok reply) :
    reply.notices = [] ∨ ∃ n, reply.notices = [n] ∧ '\n' ∉ n.line.toList := by
  unfold plainReply at plain
  cases probe : site.settings.isProbe r.target with
  | true =>
      rw [probe] at plain
      cases plain
      exact Or.inl rfl
  | false =>
      rw [probe] at plain
      unfold dispatch at plain
      cases method : r.method with
      | get => exact absurd ⟨Or.inl method, probe⟩ other
      | head => exact absurd ⟨Or.inr method, probe⟩ other
      | options =>
          rw [method] at plain
          cases plain
          exact notices_ofBuild (by decide) _
      | other name =>
          have named := accepted.not_mem_name (c := '\n') (by decide)
          rw [method] at plain named
          cases plain
          have quiet : Reply.notImplemented.notices = [] := by decide +kernel
          refine Or.inr ⟨_, congrArg (_ :: ·) quiet, ?_⟩
          simpa [Notice.mem_line, Notice.said, accepted.not_mem_target, Method.name] using named

/-! ## The log -/

/-- A path that the error log shows of a request. -/
def ShowsPath (site : Site) (fs : FileSystem) (r : Request) (p : Bytes) : Prop :=
  site.IsFetch r ∧ (site.route fs r.target).Shows fs (fetchOf r) p

/-- What the error log gets of an exchange is nothing, or one whole line with how grave it is
at its front. -/
def Noted (x : Exchange) : Prop :=
  Journal.textOf x.journal.errors = "" ∨
    ∃ line, Journal.textOf x.journal.errors = line ++ "\n" ∧ '\n' ∉ line.toList ∧
      Notice.Labelled line

/-- **Of a request that shows no path, no line is broken.** -/
theorem notices_of_hidden (accepted : r.Accepted) (hidden : ¬ ∃ p, site.ShowsPath fs r p)
    (plain : site.plainReply fs r = .ok reply) :
    reply.notices = [] ∨ ∃ n, reply.notices = [n] ∧ '\n' ∉ n.line.toList := by
  by_cases fetch : site.IsFetch r
  · rw [plainReply_of_isFetch fetch] at plain
    exact notices_of_not_shows (f := fetchOf r) (fun p here => hidden ⟨p, fetch, here⟩)
      accepted.not_mem_target plain
  · exact notices_of_not_isFetch fetch accepted plain

/-- A notice at most is one entry at most, which begins with how grave it is. -/
theorem labelled_exchangeOf (few : reply.notices = [] ∨ ∃ n, reply.notices = [n]) :
    (site.exchangeOf r t reply).journal.errors.length ≤ 1 ∧
      ∀ line ∈ (site.exchangeOf r t reply).journal.errors, Notice.Labelled line := by
  rw [errors_exchangeOf]
  refine ⟨?_, ?_⟩
  · rcases few with quiet | ⟨n, one⟩
    · rw [quiet]
      exact Nat.zero_le 1
    · rw [one]
      exact Nat.le_refl 1
  · intro line member
    obtain ⟨n, -, rfl⟩ := List.mem_map.1 member
    exact n.labelled_line

theorem noted_of_notices_eq_nil (quiet : reply.notices = []) :
    Noted (site.exchangeOf r t reply) := by
  left
  rw [errors_exchangeOf, quiet]
  rfl

theorem noted_iff_of_notices_eq {n : Notice} (one : reply.notices = [n]) :
    Noted (site.exchangeOf r t reply) ↔ '\n' ∉ n.line.toList := by
  have text : Journal.textOf (site.exchangeOf r t reply).journal.errors = n.line ++ "\n" := by
    rw [errors_exchangeOf, one]
    simp [Journal.textOf]
  unfold Noted
  rw [text]
  constructor
  · rintro (nothing | ⟨line, same, whole, -⟩)
    · have last : '\n' ∈ (n.line ++ "\n").toList := by simp
      rw [nothing] at last
      cases last
    · rwa [String.append_left_inj _ |>.1 same]
  · intro whole
    exact Or.inr ⟨n.line, rfl, whole, n.labelled_line⟩

/-- **The error log gets one whole line of a request, or none, exactly when the path that it
shows holds no line end.**  This is of every request that was read from bytes; in any case
it gets one entry at most, which begins with how grave it is. -/
theorem noted_iff (site : Site) (fs : FileSystem) (t : Timing) (accepted : r.Accepted) :
    (∀ x, site.handle fs r t = .ok x →
      x.journal.errors.length ≤ 1 ∧ (∀ line ∈ x.journal.errors, Notice.Labelled line) ∧
        (Noted x ↔ ∀ p, site.ShowsPath fs r p → 0x0A ∉ p)) ∧
      ((∃ x, site.handle fs r t = .ok x) ↔ ¬ site.AsksUndated fs r) := by
  refine ⟨?_, exists_handle_iff⟩
  intro x handled
  obtain ⟨reply, plain, rfl⟩ := exists_reply_of_handle handled
  by_cases shown : ∃ p, site.ShowsPath fs r p
  · obtain ⟨p, fetch, here⟩ := shown
    rw [plainReply_of_isFetch fetch] at plain
    obtain ⟨n, one, breaks⟩ := notices_of_shows here plain
    obtain ⟨few, labelled⟩ := labelled_exchangeOf (Or.inr ⟨n, one⟩)
    refine ⟨few, labelled, (noted_iff_of_notices_eq one).trans ⟨?_, ?_⟩⟩
    · -- whichever path is said to be shown, it is the one in the one line
      rintro whole q ⟨-, there⟩ broken
      obtain ⟨m, same, breaks'⟩ := notices_of_shows there plain
      rw [one] at same
      obtain rfl : n = m := List.singleton_inj.1 same
      exact whole (breaks'.2 broken)
    · intro kept broken
      exact kept p ⟨fetch, here⟩ (breaks.1 broken)
  · have hidden (p : Bytes) (here : site.ShowsPath fs r p) : 0x0A ∉ p :=
      absurd ⟨p, here⟩ shown
    rcases notices_of_hidden accepted shown plain with quiet | ⟨n, one, whole⟩
    · obtain ⟨few, labelled⟩ := labelled_exchangeOf (Or.inl quiet)
      exact ⟨few, labelled, iff_of_true (noted_of_notices_eq_nil quiet) hidden⟩
    · obtain ⟨few, labelled⟩ := labelled_exchangeOf (Or.inr ⟨n, one⟩)
      exact ⟨few, labelled, iff_of_true ((noted_iff_of_notices_eq one).2 whole) hidden⟩

namespace Example

/-- A tree with one socket, which cannot be opened. -/
def socketNamed (name : String) : FileSystem where
  entries := [([Bytes.ofString name], { node := .socket })]

end Example

/-- A file that cannot be opened is told of in one line. -/
theorem noted_of_socket :
    ∃ x, Example.atTop.handle (Example.socketNamed "s") (Example.request .get "/s")
        Example.timing = .ok x ∧
      Journal.textOf x.journal.errors =
        "[ERROR] Failed to read file '/s': No such device or address (os error 6)\n" ∧ Noted x := by
  have read : Uri.target (Bytes.ofString "/s") = .ok "/s".toList := by decide +kernel
  have accepted : (Example.request .get "/s").Accepted :=
    ⟨⟨Bytes.ofString "GET", by decide +kernel⟩, ⟨_, read⟩⟩
  have answer : ((Example.atTop.handle (Example.socketNamed "s") (Example.request .get "/s")
      Example.timing).toOption.map fun x => Journal.textOf x.journal.errors) =
        some "[ERROR] Failed to read file '/s': No such device or address (os error 6)\n" := by
    decide +kernel
  obtain ⟨x, handled, text⟩ := exists_of_toOption_map answer
  obtain ⟨answered, -⟩ :=
    noted_iff Example.atTop (Example.socketNamed "s") Example.timing accepted
  obtain ⟨-, -, noted⟩ := answered x handled
  refine ⟨x, handled, text, noted.2 ?_⟩
  rintro p ⟨-, here⟩
  have way : Example.atTop.route (Example.socketNamed "s") (Example.request .get "/s").target =
      .file (Bytes.ofString "/s") { node := .socket } := by decide +kernel
  cases here with
  | unopened file stale closed =>
      rw [way] at file
      cases file
      decide
  | unlisted listing closed =>
      rw [way] at listing
      cases listing

/-- **A name can break the line of a notice**: asked for by an escape, its line end is
written as it is. -/
theorem not_noted_of_lineEnd :
    Uri.target (Bytes.ofString "/a%0Ab") = .ok "/a%0Ab".toList ∧
    ∃ x, Example.atTop.handle (Example.socketNamed "a\nb") (Example.request .get "/a%0Ab")
        Example.timing = .ok x ∧
      Journal.textOf x.journal.errors =
        "[ERROR] Failed to read file '/a\nb': No such device or address (os error 6)\n" ∧
      ¬ Noted x := by
  have read : Uri.target (Bytes.ofString "/a%0Ab") = .ok "/a%0Ab".toList := by decide +kernel
  have answer : ((Example.atTop.handle (Example.socketNamed "a\nb") (Example.request .get "/a%0Ab")
      Example.timing).toOption.map fun x => Journal.textOf x.journal.errors) =
        some "[ERROR] Failed to read file '/a\nb': No such device or address (os error 6)\n" := by
    decide +kernel
  obtain ⟨x, handled, text⟩ := exists_of_toOption_map answer
  refine ⟨read, x, handled, text, ?_⟩
  have ends : (Journal.textOf x.journal.errors).toList.count '\n' = 2 := by
    rw [text]
    decide +kernel
  rintro (nothing | ⟨line, same, whole, -⟩)
  · rw [nothing] at ends
    exact absurd ends (by decide)
  · rw [same, String.toList_append, List.count_append, List.count_eq_zero.2 whole] at ends
    exact absurd ends (by decide)

end Site

end StaticPreview
