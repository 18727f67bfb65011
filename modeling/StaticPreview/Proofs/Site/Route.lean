/-
# StaticPreview.Proofs.Site.Route -- which way an answer comes about

Whether a target is answered with a file, an index file, a listing, a redirect or not
at all is decided from the file system and the target alone; the method and the
conditions of the request only matter afterwards.  `Site.route` is that decision and
`Route.reply` what follows from it; together they are `Site.serve` (`serve_eq_reply`).

`Route.Taken` says when each way is taken, and `route_eq_iff` that exactly one is: a
file asked for by its own path and a directory that is listed are inside the root, of
an index file only its directory is known to be.  `serveFile_cases` says what becomes
of a file once it is known which.
-/
import StaticPreview.Proofs.FileSystem.Walk
import StaticPreview.Proofs.Response
import StaticPreview.Proofs.Site.Handle

namespace StaticPreview.Site

open Time

/-- The way in which a target is answered. -/
inductive Route where
  /-- Nothing is there. -/
  | missing
  /-- What is there stands neither at nor below the root. -/
  | outside
  /-- A directory asked for without its solidus. -/
  | redirect
  /-- A file asked for by its own path. -/
  | file (path : Bytes) (entry : Entry)
  /-- An index file of a directory. -/
  | index (path : Bytes) (entry : Entry)
  /-- A directory that is listed under a title. -/
  | listing (directory : Bytes) (title : List Char)
  /-- A directory that is not listed, or a file asked for as a directory. -/
  | withheld
  deriving DecidableEq, Repr

/-- The way in which a directory is answered. -/
def routeDirectory (site : Site) (fs : FileSystem) (r : Target.Resolved) : Route :=
  if !r.trailingSlash then .redirect
  else
    match indexFile? fs r.fsPath site.settings.preview.indexFiles with
    | some (p, e) => .index p e
    | none =>
        if !site.settings.preview.directoryListing then .withheld
        else .listing r.fsPath r.urlPath

/-- The way in which a target is answered. -/
def route (site : Site) (fs : FileSystem) (target : List Char) : Route :=
  let r := Target.resolve site.rootPath target
  match fs.stat r.fsPath with
  | .error _ => .missing
  | .ok entry =>
      if !site.contains fs r.fsPath then .outside
      else if entry.node.isDirectory then site.routeDirectory fs r
      else if r.trailingSlash || r.urlPath.getLast? = some '/' then .withheld
      else .file r.fsPath entry

/-- The warning that something stands outside the root. -/
def outsideNotice (target : List Char) : Notice :=
  .warning ("Path outside serving root blocked: " ++ String.ofList target)

/-- The reply with which a directory is listed, if it can be. -/
def listingReply (fs : FileSystem) (directory : Bytes) (title : List Char) (isHead : Bool) :
    Reply :=
  match Listing.render fs directory title with
  | .ok page => Reply.html (String.ofList page) isHead
  | .error e =>
      notFoundBecause (.warning
        ("Cannot list directory '" ++ directory.toStringLossy ++ "': " ++ e.message))

/-- The reply that a way of answering ends in. -/
def Route.reply (fs : FileSystem) (f : Fetch) : Route → Except OutsideCalendar Reply
  | .missing => .ok Reply.notFound
  | .outside => .ok (notFoundBecause (outsideNotice f.target))
  | .redirect => .ok (Reply.redirect (String.ofList (withSolidus f.target)))
  | .file p e => serveFile fs f p e
  | .index p e => serveFile fs f p e
  | .listing directory title => .ok (listingReply fs directory title f.isHead)
  | .withheld => .ok Reply.notFound

variable {site : Site} {fs : FileSystem} {f : Fetch} {r : Request} {t : Timing} {x : Exchange}
  {target : List Char}

theorem serveDirectory_eq_reply (r : Target.Resolved) :
    site.serveDirectory fs f r = (site.routeDirectory fs r).reply fs f := by
  unfold serveDirectory routeDirectory
  split
  · rfl
  · cases indexFile? fs r.fsPath site.settings.preview.indexFiles with
    | some found => rfl
    | none =>
        dsimp only
        split
        · rfl
        · simp only [Route.reply, listingReply]
          cases Listing.render fs r.fsPath r.urlPath <;> rfl

/-- **What is served is the reply that its way of answering ends in.** -/
theorem serve_eq_reply (site : Site) (fs : FileSystem) (f : Fetch) :
    site.serve fs f = (site.route fs f.target).reply fs f := by
  unfold serve route
  dsimp only
  cases fs.stat (Target.resolve site.rootPath f.target).fsPath with
  | error e => rfl
  | ok entry =>
      dsimp only
      split
      · rfl
      · split
        · exact serveDirectory_eq_reply _
        · split <;> rfl

/-! ## What a route leads to -/

/-- The path that a target resolves to below the root of the site. -/
def ownPath (site : Site) (target : List Char) : Bytes :=
  (Target.resolve site.rootPath target).fsPath

/-- Whether a target's own path ends in a solidus. -/
def asksFolder (site : Site) (target : List Char) : Bool :=
  (Target.resolve site.rootPath target).trailingSlash

variable {p : Bytes} {e : Entry}

/-- The first index file is regular, is there, and is one of those that are set. -/
theorem stat_of_indexFile? {directory : Bytes} {names : List String}
    (h : indexFile? fs directory names = some (p, e)) :
    fs.stat p = .ok e ∧ e.node.isFile = true ∧
      ∃ name ∈ names, p = Path.push directory (Bytes.ofString name) := by
  induction names with
  | nil => simp [indexFile?] at h
  | cons name names ih =>
      have later (rest : indexFile? fs directory names = some (p, e)) :
          fs.stat p = .ok e ∧ e.node.isFile = true ∧
            ∃ name' ∈ name :: names, p = Path.push directory (Bytes.ofString name') := by
        obtain ⟨there, regular, name', member, path⟩ := ih rest
        exact ⟨there, regular, name', List.mem_cons_of_mem _ member, path⟩
      simp only [indexFile?] at h
      cases hs : fs.stat (Path.push directory (Bytes.ofString name)) with
      | error x =>
          rw [hs] at h
          exact later h
      | ok entry =>
          rw [hs] at h
          dsimp only at h
          split at h
          · rename_i regular
            simp only [Option.some.injEq, Prod.mk.injEq] at h
            obtain ⟨rfl, rfl⟩ := h
            exact ⟨hs, regular, name, List.mem_cons_self, rfl⟩
          · exact later h

theorem leadsToDirectory_iff :
    fs.leadsToDirectory p = true ↔ ∃ e, fs.stat p = .ok e ∧ e.node.isDirectory = true := by
  unfold FileSystem.leadsToDirectory
  cases fs.stat p <;> simp

/-- A target that resolves to a directory inside the root. -/
def NamesFolder (site : Site) (fs : FileSystem) (target : List Char) : Prop :=
  fs.leadsToDirectory (site.ownPath target) = true ∧
    site.contains fs (site.ownPath target) = true

/-- When a way of answering is taken. -/
def Route.Taken (site : Site) (fs : FileSystem) (target : List Char) : Route → Prop
  | .missing => ∃ x, fs.stat (site.ownPath target) = .error x
  | .outside =>
      (∃ entry, fs.stat (site.ownPath target) = .ok entry) ∧
        site.contains fs (site.ownPath target) = false
  | .redirect => site.NamesFolder fs target ∧ site.asksFolder target = false
  | .file p e =>
      p = site.ownPath target ∧ fs.stat p = .ok e ∧ site.contains fs p = true ∧
        e.node.isDirectory = false ∧ site.asksFolder target = false ∧
        (Target.resolve site.rootPath target).urlPath.getLast? ≠ some '/'
  | .index p e =>
      site.NamesFolder fs target ∧ site.asksFolder target = true ∧
        indexFile? fs (site.ownPath target) site.settings.preview.indexFiles = some (p, e)
  | .listing directory title =>
      site.NamesFolder fs target ∧ site.asksFolder target = true ∧
        indexFile? fs (site.ownPath target) site.settings.preview.indexFiles = none ∧
        site.settings.preview.directoryListing = true ∧ directory = site.ownPath target ∧
        title = (Target.resolve site.rootPath target).urlPath
  | .withheld =>
      site.NamesFolder fs target ∧ site.asksFolder target = true ∧
          indexFile? fs (site.ownPath target) site.settings.preview.indexFiles = none ∧
          site.settings.preview.directoryListing = false ∨
        ∃ e, fs.stat (site.ownPath target) = .ok e ∧
          site.contains fs (site.ownPath target) = true ∧ e.node.isDirectory = false ∧
          (site.asksFolder target = true ∨
            (Target.resolve site.rootPath target).urlPath.getLast? = some '/')

/-- The way that is taken may be taken. -/
theorem taken_route (site : Site) (fs : FileSystem) (target : List Char) :
    (site.route fs target).Taken site fs target := by
  unfold route routeDirectory
  dsimp only
  cases there : fs.stat (Target.resolve site.rootPath target).fsPath with
  | error x => exact ⟨x, there⟩
  | ok entry =>
      dsimp only
      cases inside : site.contains fs (Target.resolve site.rootPath target).fsPath with
      | false => exact ⟨⟨entry, there⟩, inside⟩
      | true =>
          cases directory : entry.node.isDirectory with
          | true =>
              have folder : site.NamesFolder fs target :=
                ⟨leadsToDirectory_iff.2 ⟨entry, there, directory⟩, inside⟩
              cases slash : (Target.resolve site.rootPath target).trailingSlash with
              | false => exact ⟨folder, slash⟩
              | true =>
                  cases found : indexFile? fs (Target.resolve site.rootPath target).fsPath
                      site.settings.preview.indexFiles with
                  | some pe => exact ⟨folder, slash, found⟩
                  | none =>
                      cases listed : site.settings.preview.directoryListing with
                      | true => exact ⟨folder, slash, found, listed, rfl, rfl⟩
                      | false => exact Or.inl ⟨folder, slash, found, listed⟩
          | false =>
              cases slash : (Target.resolve site.rootPath target).trailingSlash with
              | true => exact Or.inr ⟨entry, there, inside, directory, Or.inl slash⟩
              | false =>
                  by_cases last : (Target.resolve site.rootPath target).urlPath.getLast? = some '/'
                  · simp only [last, decide_true, Bool.or_true, Bool.not_true, Bool.false_eq_true,
                      if_false, if_true]
                    exact Or.inr ⟨entry, there, inside, directory, Or.inr last⟩
                  · simp only [last, decide_false, Bool.or_false, Bool.not_true,
                      Bool.false_eq_true, if_false]
                    exact ⟨rfl, there, inside, directory, slash, last⟩

/-- A way that may be taken is taken. -/
theorem route_of_taken {way : Route} (taken : way.Taken site fs target) :
    site.route fs target = way := by
  cases way with
  | missing =>
      obtain ⟨x, there⟩ := taken
      unfold ownPath at there
      simp [route, there]
  | outside =>
      obtain ⟨⟨entry, there⟩, inside⟩ := taken
      unfold ownPath at there inside
      simp [route, there, inside]
  | redirect =>
      obtain ⟨⟨folder, inside⟩, slash⟩ := taken
      obtain ⟨entry, there, directory⟩ := leadsToDirectory_iff.1 folder
      unfold ownPath at there inside
      unfold asksFolder at slash
      simp [route, routeDirectory, there, inside, directory, slash]
  | file p e =>
      obtain ⟨rfl, there, inside, directory, slash, last⟩ := taken
      unfold ownPath at there inside
      unfold asksFolder at slash
      simp [route, ownPath, there, inside, directory, slash, last]
  | index p e =>
      obtain ⟨⟨folder, inside⟩, slash, found⟩ := taken
      obtain ⟨entry, there, directory⟩ := leadsToDirectory_iff.1 folder
      unfold ownPath at there inside found
      unfold asksFolder at slash
      simp [route, routeDirectory, there, inside, directory, slash, found]
  | listing p title =>
      obtain ⟨⟨folder, inside⟩, slash, found, listed, rfl, rfl⟩ := taken
      obtain ⟨entry, there, directory⟩ := leadsToDirectory_iff.1 folder
      unfold ownPath at there inside found
      unfold asksFolder at slash
      simp [route, routeDirectory, ownPath, there, inside, directory, slash, found, listed]
  | withheld =>
      rcases taken with ⟨⟨folder, inside⟩, slash, found, listed⟩ |
        ⟨entry, there, inside, directory, refused⟩
      · obtain ⟨entry, there, directory⟩ := leadsToDirectory_iff.1 folder
        unfold ownPath at there inside found
        unfold asksFolder at slash
        simp [route, routeDirectory, there, inside, directory, slash, found, listed]
      · unfold ownPath at there inside
        unfold asksFolder at refused
        simp [route, there, inside, directory, refused]

/-- **Which way is taken is what `Route.Taken` says, and only one may be.** -/
theorem route_eq_iff {way : Route} :
    site.route fs target = way ↔ way.Taken site fs target := by
  constructor
  · rintro rfl
    exact taken_route site fs target
  · exact route_of_taken

/-! ## What becomes of a file -/

/-- **A file that is known is not sent because it is current, or sent, or cannot be
read.** -/
theorem serveFile_cases {reply : Reply} (there : fs.stat p = .ok e)
    (h : serveFile fs f p e = .ok reply) :
    ∃ date, e.modified.httpDate = .ok date ∧
      (f.conditions.current e.modified = .ok true ∧ reply = Reply.notModified date ∨
        f.conditions.current e.modified = .ok false ∧
          ((∃ content, e.content = .ok content ∧
              reply = Reply.file content (MediaType.ofPath p) (some date) f.isHead) ∨
            ∃ x, e.content = .error x ∧ reply = notFoundBecause
              (.error ("Failed to read file '" ++ p.toStringLossy ++ "': " ++ x.message)))) := by
  obtain ⟨date, dated, h⟩ := exists_of_bind_eq_ok h
  obtain ⟨current, decided, h⟩ := exists_of_bind_eq_ok h
  refine ⟨date, dated, ?_⟩
  rw [FileSystem.read_of_stat there] at h
  cases current with
  | true =>
      left
      refine ⟨decided, ?_⟩
      simpa [pure, Except.pure] using h.symm
  | false =>
      right
      refine ⟨decided, ?_⟩
      cases hc : e.content with
      | ok content =>
          left
          refine ⟨content, rfl, ?_⟩
          simpa [hc, pure, Except.pure] using h.symm
      | error x =>
          right
          refine ⟨x, rfl, ?_⟩
          simpa [hc, pure, Except.pure] using h.symm

/-! ## What is answered -/

/-- A request for a file or a directory. -/
def IsFetch (site : Site) (r : Request) : Prop :=
  (r.method = .get ∨ r.method = .head) ∧ site.settings.isProbe r.target = false

/-- **Any other request is answered with nothing, with what may be asked, or refused**, and
always answered. -/
theorem exists_plainReply_of_not_isFetch (other : ¬ site.IsFetch r) (fs : FileSystem) :
    ∃ reply, site.plainReply fs r = .ok reply ∧
      (site.settings.isProbe r.target = true ∧ reply.response = Reply.noContent.response ∨
        r.method = .options ∧ reply.response = Reply.options.response ∨
        reply.response = Reply.notImplemented.response) := by
  unfold plainReply
  cases probe : site.settings.isProbe r.target with
  | true => exact ⟨_, rfl, Or.inl ⟨rfl, rfl⟩⟩
  | false =>
      unfold dispatch
      cases method : r.method with
      | get => exact absurd ⟨Or.inl method, probe⟩ other
      | head => exact absurd ⟨Or.inr method, probe⟩ other
      | options => exact ⟨_, rfl, Or.inr (Or.inl ⟨rfl, rfl⟩)⟩
      | other name => exact ⟨_, rfl, Or.inr (Or.inr rfl)⟩

theorem response_of_not_isFetch {reply : Reply} (other : ¬ site.IsFetch r)
    (plain : site.plainReply fs r = .ok reply) :
    site.settings.isProbe r.target = true ∧ reply.response = Reply.noContent.response ∨
      r.method = .options ∧ reply.response = Reply.options.response ∨
      reply.response = Reply.notImplemented.response := by
  obtain ⟨_, same, kinds⟩ := exists_plainReply_of_not_isFetch other fs
  rw [plain] at same
  cases same
  exact kinds

theorem status_of_not_isFetch {reply : Reply} (other : ¬ site.IsFetch r)
    (plain : site.plainReply fs r = .ok reply) :
    reply.response.status = 204 ∨ reply.response.status = 501 := by
  rcases response_of_not_isFetch other plain with ⟨-, same⟩ | ⟨-, same⟩ | same
  · exact Or.inl (congrArg Response.status same)
  · exact Or.inl ((congrArg Response.status same).trans Reply.status_options)
  · exact Or.inr ((congrArg Response.status same).trans Reply.status_notImplemented)

/-- What is answered to a request for a file or a directory. -/
theorem exists_reply_of_isFetch (h : site.handle fs r t = .ok x) (fetch : site.IsFetch r) :
    ∃ isHead reply,
      (site.route fs r.target).reply fs (Fetch.ofRequest r isHead) = .ok reply ∧
        x.response = reply.withPreview.response := by
  obtain ⟨reply, plain, rfl⟩ := exists_reply_of_handle h
  obtain ⟨method, noProbe⟩ := fetch
  unfold plainReply at plain
  rw [noProbe, if_neg Bool.false_ne_true] at plain
  rcases method with get | head
  · simp only [dispatch, get, serve_eq_reply] at plain
    exact ⟨false, reply, plain, rfl⟩
  · simp only [dispatch, head, serve_eq_reply] at plain
    exact ⟨true, reply, plain, rfl⟩

/-- Whether a way of answering says no more than that there is no such file. -/
def Route.refused : Route → Bool
  | .missing | .outside | .withheld => true
  | _ => false

/-- **All refusals look the same.** -/
theorem response_of_refused {way : Route} {reply : Reply} (refused : way.refused = true)
    (h : way.reply fs f = .ok reply) : reply.response = Reply.notFound.response := by
  cases way with
  | missing | outside | withheld =>
      cases h
      rfl
  | redirect | file | index | listing => cases refused

/-- Nothing but what is there, current or not there is said of a file. -/
theorem status_serveFile {reply : Reply} (there : fs.stat p = .ok e)
    (h : serveFile fs f p e = .ok reply) :
    reply.response.status = 200 ∨ reply.response.status = 304 ∨ reply.response.status = 404 := by
  obtain ⟨date, -, ⟨-, rfl⟩ | ⟨-, ⟨content, -, rfl⟩ | ⟨x, -, rfl⟩⟩⟩ := serveFile_cases there h
  · rcases Reply.status_ofBuild "304" 304 [("Last-Modified", date)] [] with same | fallback
    · exact Or.inr (Or.inl same)
    · exact Or.inl fallback
  · exact Or.inl ((Reply.status_ofBuild _ _ _ _).elim id id)
  · exact Or.inr (Or.inr Reply.status_notFound)

theorem status_listingReply (fs : FileSystem) (directory : Bytes) (title : List Char)
    (isHead : Bool) :
    (listingReply fs directory title isHead).response.status = 200 ∨
      (listingReply fs directory title isHead).response.status = 404 := by
  unfold listingReply
  split
  · exact Or.inl ((Reply.status_ofBuild _ _ _ _).elim id id)
  · exact Or.inr Reply.status_notFound

end StaticPreview.Site
