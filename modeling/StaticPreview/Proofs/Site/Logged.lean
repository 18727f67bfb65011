/-
# StaticPreview.Proofs.Site.Logged -- what the access log says of a request

An exchange is written down as the entry of its request and its response
(`accessLines`).  A target without a fragment is put together again from its two parts,
an empty query behind its question mark included, so the entry shows it as it was sent
(`requestUri_accessEntry`), and what was read from a request breaks no line
(`unbroken_accessEntry`).

So every answer leaves one line, in the common format the one of `commonLine`, and none
where it is not asked for or not to be noticed (`Logged`), and there is no answer only to a
request for a file that has no date: `handle_logged`.
-/
import StaticPreview.Proofs.AccessLine
import StaticPreview.Proofs.Request.Accepted
import StaticPreview.Proofs.Site.Answered

namespace StaticPreview

open StaticPreview.Text

theorem Request.not_mem_headerText? {r : Request} {name text : String} {c : Char}
    (h : r.headerText? name = some text) (other : Header.isTextChar c = false) :
    c ∉ text.toList := by
  intro member
  rw [List.all_eq_true.1 (Request.all_headerText? h) c member] at other
  cases other

/-- A path and a query are shown as one text. -/
theorem AccessEntry.requestUri_eq {e : AccessEntry} {path : List Char} {query : Option (List Char)}
    (shown : e.path = String.ofList path) (asked : e.query = query.map String.ofList) :
    e.requestUri = String.ofList (Target.unsplit path query) := by
  rw [requestUri, asked]
  cases query with
  | none => exact shown
  | some q =>
      apply String.toList_injective
      simp [shown, Target.unsplit]

namespace Site

open Time

variable {site : Site} {fs : FileSystem} {r : Request} {t : Timing} {response : Response}

/-! ## The entry of a request -/

/-- **An entry shows the target as it was sent.** -/
theorem requestUri_accessEntry (sign : '#' ∉ r.target) :
    (accessEntry r response t).requestUri = String.ofList r.target := by
  have parts : (accessEntry r response t).requestUri =
      String.ofList (Target.unsplit (Target.split r.target).1 (Target.split r.target).2) :=
    AccessEntry.requestUri_eq rfl rfl
  rw [parts, Target.unsplit_split sign]

/-- **What was read from a request breaks no line.** -/
theorem unbroken_accessEntry (accepted : r.Accepted) :
    (accessEntry r response t).Unbroken := by
  have sign : '#' ∉ r.target := fun member => (accepted.of_mem_target member).2 rfl
  have shown (name : String) : '\n' ∉ ((r.headerText? name).getD "-").toList := by
    cases sent : r.headerText? name with
    | none => decide
    | some text => exact Request.not_mem_headerText? sent (by decide)
  refine ⟨?_, ?_, ?_, ?_, shown "referer", shown "user-agent"⟩
  · show '\n' ∉ (String.ofList r.peer.ip.text).toList
    rw [String.toList_ofList]
    exact IpAddr.not_mem_text _ (by decide)
  · exact accepted.not_mem_name (by decide)
  · rw [requestUri_accessEntry sign, String.toList_ofList]
    intro member
    exact absurd (accepted.of_mem_target member).1 (by decide)
  · show '\n' ∉ r.version.label.toList
    cases r.version <;> decide

/-- The line of the common log format about a request and the response to it: the address,
the time, the request line and the status and length of the response. -/
def commonLine (r : Request) (t : Timing) (response : Response) : String :=
  String.ofList r.peer.ip.text ++ " - - [" ++ String.ofList t.time.logText ++ "] \"" ++
    r.method.name ++ " " ++ String.ofList r.target ++ " HTTP/" ++ r.version.label ++ "\" " ++
    numberText response.status ++ " " ++ numberText response.body.length

theorem common_accessEntry (sign : '#' ∉ r.target) :
    (accessEntry r response t).common = commonLine r t response := by
  rw [AccessEntry.common, AccessEntry.requestLine, requestUri_accessEntry sign]
  apply String.toList_injective
  simp [commonLine, accessEntry, AccessEntry.timeLocal, AccessEntry.decimal, numberText]

/-! ## The log -/

/-- What the access log says of an exchange: one whole line, or nothing. -/
structure Logged (site : Site) (r : Request) (t : Timing) (x : Exchange) : Prop where
  written : site.settings.logging.accessLog = true → site.settings.isProbe r.target = false →
    ∃ line : String, Journal.textOf x.journal.access = line ++ "\n" ∧ '\n' ∉ line.toList ∧
      (site.settings.logging.accessLogFormat = "common" → line = commonLine r t x.response)
  silent : site.settings.logging.accessLog = false ∨ site.settings.isProbe r.target = true →
    x.journal.access = []

theorem access_exchangeOf (reply : Reply) :
    (site.exchangeOf r t reply).journal.access =
      site.accessLines r (site.exchangeOf r t reply).response t := rfl

theorem logged_exchangeOf (accepted : r.Accepted)
    (standard : site.settings.logging.accessLogFormat ∈ AccessEntry.standardFormats)
    (reply : Reply) : site.Logged r t (site.exchangeOf r t reply) := by
  refine ⟨?_, ?_⟩
  · intro logging noProbe
    refine ⟨(accessEntry r (site.exchangeOf r t reply).response t).line
      site.settings.logging.accessLogFormat, ?_,
      AccessEntry.not_mem_line (unbroken_accessEntry accepted) standard, ?_⟩
    · rw [access_exchangeOf, accessLines, noProbe, logging]
      simp [Journal.textOf]
    · intro common
      have sign : '#' ∉ r.target := fun member => (accepted.of_mem_target member).2 rfl
      rw [common, ← common_accessEntry sign]
      rfl
  · intro quiet
    rw [access_exchangeOf, accessLines]
    rcases quiet with off | probe
    · rw [off, Bool.and_false, if_neg Bool.false_ne_true]
    · rw [probe, Bool.not_true, Bool.false_and, if_neg Bool.false_ne_true]

/-- **Every answer leaves one whole line in the access log, or nothing where nothing is to
be noticed.**  This holds of every request that was read from bytes, whatever it asks for
and whatever its fields say; there is no answer exactly when a request asks for a file
whose time has no date. -/
theorem handle_logged (site : Site) (fs : FileSystem) (r : Request) (t : Timing)
    (accepted : r.Accepted)
    (standard : site.settings.logging.accessLogFormat ∈ AccessEntry.standardFormats) :
    (∀ x, site.handle fs r t = .ok x → site.Logged r t x) ∧
      ((∃ x, site.handle fs r t = .ok x) ↔ ¬ site.AsksUndated fs r) := by
  refine ⟨?_, exists_handle_iff⟩
  intro x handled
  obtain ⟨reply, -, rfl⟩ := exists_reply_of_handle handled
  exact logged_exchangeOf accepted standard reply

/-- What is not there is written down too, with the empty query that was sent and without
the fragment that was not. -/
theorem handle_logged_emptyQuery :
    Uri.target (Bytes.ofString "/x?#top") = .ok "/x?".toList ∧
    ∃ x, Example.atTop.handle {} (Example.request .get "/x?") Example.timing = .ok x ∧
      Journal.textOf x.journal.access =
        "127.0.0.1 - - [01/Jan/1970:00:00:00 +0000] \"GET /x? HTTP/1.1\" 404 13\n" := by
  have read : Uri.target (Bytes.ofString "/x?#top") = .ok "/x?".toList := by decide +kernel
  have accepted : (Example.request .get "/x?").Accepted :=
    ⟨⟨Bytes.ofString "GET", by decide +kernel⟩, ⟨_, read⟩⟩
  obtain ⟨logged, -⟩ :=
    handle_logged Example.atTop {} (Example.request .get "/x?") Example.timing accepted (by decide)
  have told : ((Example.atTop.handle {} (Example.request .get "/x?") Example.timing).toOption.map
      fun x => commonLine (Example.request .get "/x?") Example.timing x.response) =
      some "127.0.0.1 - - [01/Jan/1970:00:00:00 +0000] \"GET /x? HTTP/1.1\" 404 13" := by
    decide +kernel
  obtain ⟨x, handled, shown⟩ := exists_of_toOption_map told
  obtain ⟨line, text, -, common⟩ := (logged x handled).written rfl (by decide)
  refine ⟨read, x, handled, ?_⟩
  rw [text, common rfl, shown]
  rfl

end Site

end StaticPreview
