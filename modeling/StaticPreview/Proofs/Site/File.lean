/-
# StaticPreview.Proofs.Site.File -- what a request for a file is answered with

Two ways of answering end in a file, its own path and that of its directory
(`Route.file?`), and they do the same with it: look at its time, then at the conditions,
and open it last.  So a request for a file that has a date is answered with 304 when the
client's copy is current (`handle_current`), with the whole file when it is not and the
file can be opened (`handle_opened`), and as if nothing were there when it cannot be
(`handle_unopened`).
-/
import StaticPreview.Proofs.Reply
import StaticPreview.Proofs.Site.Route

namespace StaticPreview

open Time

/-- A response with a whole file. -/
structure Response.Gives (response : Response) (p content : Bytes) (date : String) : Prop where
  status : response.status = 200
  body : response.body = content
  length : response.headers.values "content-length" =
    [Bytes.ofString (numberText content.length)]
  type : response.headers.values "content-type" = [Bytes.ofString (MediaType.ofPath p)]
  date : response.headers.values "last-modified" = [Bytes.ofString date]

/-- A response that says only that the client's copy is current. -/
structure Response.Confirms (response : Response) (date : String) : Prop where
  status : response.status = 304
  body : response.body = []
  date : response.headers.values "last-modified" = [Bytes.ofString date]

namespace Reply

/-- A file comes with its date, whether or not its body is left out. -/
theorem values_file (p data : Bytes) {date : String} (isHead : Bool)
    (dated : Header.isVisible date.toList = true) :
    (file data (MediaType.ofPath p) (some date) isHead).withPreview.response.headers.values
      "last-modified" = [Bytes.ofString date] := by
  have modified : "last-modified" ∉ Headers.mandatedNames := by decide
  rw [headers_withPreview, Headers.values_withPreview _ modified,
    file_eq data isHead (isVisible_ofPath p) dated]
  simp [Headers.values]

theorem gives_file (p data : Bytes) {date : String}
    (dated : Header.isVisible date.toList = true) :
    (file data (MediaType.ofPath p) (some date) false).withPreview.response.Gives p data date := by
  have type : "content-type" ∉ Headers.mandatedNames := by decide
  have length : "content-length" ∉ Headers.mandatedNames := by decide
  have modified := values_file p data false dated
  rw [file_eq data false (isVisible_ofPath p) dated] at modified ⊢
  refine ⟨rfl, rfl, ?_, ?_, modified⟩
  · rw [headers_withPreview, Headers.values_withPreview _ length]
    simp [Headers.values]
  · rw [headers_withPreview, Headers.values_withPreview _ type]
    simp [Headers.values]

theorem confirms_notModified {date : String} (dated : Header.isVisible date.toList = true) :
    (notModified date).withPreview.response.Confirms date := by
  have modified : "last-modified" ∉ Headers.mandatedNames := by decide
  rw [notModified_eq dated]
  refine ⟨rfl, rfl, ?_⟩
  rw [headers_withPreview, Headers.values_withPreview _ modified]
  simp [Headers.values]

end Reply

namespace Site

variable {site : Site} {fs : FileSystem} {f : Fetch} {r : Request} {t : Timing} {x : Exchange}
  {target : List Char} {p content : Bytes} {e : Entry} {date : String} {way : Route}

/-! ## One file -/

/-- The file that a way of answering ends in, with its entry. -/
def Route.file? : Route → Option (Bytes × Entry)
  | .file p e => some (p, e)
  | .index p e => some (p, e)
  | _ => none

theorem reply_of_file? (h : way.file? = some (p, e)) : way.reply fs f = serveFile fs f p e := by
  cases way with
  | file q e' =>
      cases h
      rfl
  | index q e' =>
      cases h
      rfl
  | missing | outside | redirect | listing | withheld => cases h

theorem isDirectory_of_isFile (regular : e.node.isFile = true) : e.node.isDirectory = false := by
  cases node : e.node with
  | directory =>
      rw [node] at regular
      cases regular
  | file | link | socket | null => rfl

/-- The file of a route is there, and is no directory. -/
theorem stat_of_file? (h : (site.route fs target).file? = some (p, e)) :
    fs.stat p = .ok e ∧ e.node.isDirectory = false := by
  have taken := taken_route site fs target
  cases way : site.route fs target with
  | file q e' =>
      rw [way] at h taken
      obtain ⟨-, there, -, noDirectory, -⟩ := taken
      cases h
      exact ⟨there, noDirectory⟩
  | index q e' =>
      rw [way] at h taken
      obtain ⟨-, -, found⟩ := taken
      obtain ⟨there, regular, -⟩ := stat_of_indexFile? found
      cases h
      exact ⟨there, isDirectory_of_isFile regular⟩
  | missing | outside | redirect | listing | withheld =>
      rw [way] at h
      cases h

theorem response_notFoundBecause (notice : Notice) :
    (notFoundBecause notice).response = Reply.notFound.response := by
  unfold notFoundBecause
  rfl

theorem serveFile_current (dated : e.modified.httpDate = .ok date)
    (current : f.conditions.current e.modified = .ok true) :
    serveFile fs f p e = .ok (Reply.notModified date) := by
  rw [serveFile, bind_of_eq_ok dated, bind_of_eq_ok current]
  rfl

theorem serveFile_opened (there : fs.stat p = .ok e) (dated : e.modified.httpDate = .ok date)
    (stale : f.conditions.current e.modified = .ok false) (opened : e.content = .ok content) :
    serveFile fs f p e =
      .ok (Reply.file content (MediaType.ofPath p) (some date) f.isHead) := by
  rw [serveFile, bind_of_eq_ok dated, bind_of_eq_ok stale, FileSystem.read_of_stat there, opened]
  rfl

theorem serveFile_unopened {refusal : IoError} (there : fs.stat p = .ok e)
    (dated : e.modified.httpDate = .ok date)
    (stale : f.conditions.current e.modified = .ok false) (unopened : e.content = .error refusal) :
    serveFile fs f p e = .ok (notFoundBecause
      (.error ("Failed to read file '" ++ p.toStringLossy ++ "': " ++ refusal.message))) := by
  rw [serveFile, bind_of_eq_ok dated, bind_of_eq_ok stale, FileSystem.read_of_stat there, unopened]
  rfl

theorem serveFile_of_httpDate_error {outside : OutsideCalendar}
    (h : e.modified.httpDate = .error outside) : serveFile fs f p e = .error outside := by
  rw [serveFile, h]
  rfl

/-! ## Whole requests -/

/-- What a request for a file or a directory asks for. -/
def fetchOf (r : Request) : Fetch := Fetch.ofRequest r (r.method = .head)

theorem plainReply_of_isFetch (fetch : site.IsFetch r) :
    site.plainReply fs r = (site.route fs r.target).reply fs (fetchOf r) := by
  obtain ⟨method, noProbe⟩ := fetch
  rw [plainReply, if_neg (by simp [noProbe])]
  rcases method with get | head
  · have same : Fetch.ofRequest r false = fetchOf r := by simp [fetchOf, get]
    rw [dispatch, get]
    dsimp only
    rw [serve_eq_reply, same]
    rfl
  · have same : Fetch.ofRequest r true = fetchOf r := by simp [fetchOf, head]
    rw [dispatch, head]
    dsimp only
    rw [serve_eq_reply, same]
    rfl

/-- **What is answered to a request for a file or a directory is decided by the way in
which its target is answered.** -/
theorem handle_of_isFetch (fetch : site.IsFetch r) (fs : FileSystem) (t : Timing) :
    site.handle fs r t =
      ((site.route fs r.target).reply fs (fetchOf r)).map (site.exchangeOf r t) := by
  rw [handle_eq, plainReply_of_isFetch fetch]

theorem handle_of_serveFile {reply : Reply} (fetch : site.IsFetch r)
    (file : (site.route fs r.target).file? = some (p, e))
    (served : serveFile fs (fetchOf r) p e = .ok reply) (t : Timing) :
    site.handle fs r t = .ok (site.exchangeOf r t reply) := by
  rw [handle_of_isFetch fetch, reply_of_file? file, served]
  rfl

/-- **A current copy is confirmed**, whether or not the file could be opened. -/
theorem handle_current (fetch : site.IsFetch r)
    (file : (site.route fs r.target).file? = some (p, e)) (dated : e.modified.httpDate = .ok date)
    (current : (fetchOf r).conditions.current e.modified = .ok true) (t : Timing) :
    ∃ x, site.handle fs r t = .ok x ∧ x.response.Confirms date :=
  ⟨_, handle_of_serveFile fetch file (serveFile_current dated current) t,
    Reply.confirms_notModified (isVisible_of_httpDate dated)⟩

/-- **A file that can be opened is given whole** when no copy of it is current. -/
theorem handle_opened (noProbe : site.settings.isProbe r.target = false) (get : r.method = .get)
    (file : (site.route fs r.target).file? = some (p, e)) (dated : e.modified.httpDate = .ok date)
    (stale : (fetchOf r).conditions.current e.modified = .ok false)
    (opened : e.content = .ok content) (t : Timing) :
    ∃ x, site.handle fs r t = .ok x ∧ x.response.Gives p content date := by
  have fetch : site.IsFetch r := ⟨Or.inl get, noProbe⟩
  have there := (stat_of_file? file).1
  have body : (fetchOf r).isHead = false := by simp [fetchOf, Fetch.ofRequest, get]
  have served := serveFile_opened (f := fetchOf r) there dated stale opened
  rw [body] at served
  exact ⟨_, handle_of_serveFile fetch file served t,
    Reply.gives_file p content (isVisible_of_httpDate dated)⟩

theorem content_of_unlocked (regular : e.node = .file content) (unlocked : e.locked = false) :
    e.content = .ok content := by
  rw [Entry.content, regular, unlocked]
  rfl

end Site

/-! ## Headers that are not sent -/

theorem Request.headerText?_of_values_eq_nil {r : Request} {name : String}
    (h : r.headers.values name = []) : r.headerText? name = none := by
  have none_ : r.headers.get? name = none := by
    rw [Headers.get?, List.find?_eq_none]
    intro field member named
    rw [Headers.values, List.map_eq_nil_iff, List.filter_eq_nil_iff] at h
    exact h field member named
  rw [Request.headerText?, none_]
  rfl

end StaticPreview
