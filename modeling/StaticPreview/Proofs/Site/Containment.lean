/-
# StaticPreview.Proofs.Site.Containment -- what is told of files outside the root

A path is *inside* when what it leads to, with all links on its way followed, is the
root or stands below it.  A site ought to tell of nothing else (`Contained`): a
success is about a file or a directory inside, and a request that leads outside is
answered as if nothing were there.

A target's own path is looked at before anything is told of it, and so is the
directory that is listed; the file that stands for a directory is not.  So there is
one way out, an index file that leads outside (`EscapingIndex`), and a request for a
directory takes it exactly then: `contained_iff_no_escapingIndex`.
-/
import StaticPreview.Proofs.Path
import StaticPreview.Proofs.Site.Route

namespace StaticPreview.Site

open Time

variable {site : Site} {fs : FileSystem} {f : Fetch} {r : Request} {t : Timing} {x : Exchange}
  {p : Bytes} {e : Entry} {reply : Reply}

/-- What a path leads to, with all links followed, is the root or stands below it. -/
def Inside (site : Site) (fs : FileSystem) (p : Bytes) : Prop :=
  ∃ l, fs.canonical p = .ok l ∧ fs.IsReal l ∧ site.root <+: l

/-- The file that a way of answering gives, or the directory that it lists. -/
def Route.shown? : Route → Option Bytes
  | .file p _ => some p
  | .index p _ => some p
  | .listing p _ => some p
  | _ => none

/-- The answer when nothing is there. -/
def noSuchFile : Response := Reply.notFound.withPreview.response

/-- A success that tells of no file. -/
def emptySuccess : Response :=
  { Response.fallback with headers := Response.fallback.headers.withPreview }

/-- A response that tells of nothing outside the root. -/
structure Contained (site : Site) (fs : FileSystem) (r : Request) (response : Response) : Prop where
  /-- A success is about a file or a directory, or tells of none. -/
  accounted : site.IsFetch r → response.status = 200 ∨ response.status = 304 →
    (∃ p, (site.route fs r.target).shown? = some p) ∨ response = emptySuccess
  /-- What a success is about is inside. -/
  shown : ∀ p, site.IsFetch r → (site.route fs r.target).shown? = some p →
    response.status = 200 ∨ response.status = 304 → site.Inside fs p
  /-- A request that leads outside is answered as if nothing were there. -/
  hidden : ∀ p, site.IsFetch r →
    p = site.ownPath r.target ∨ (∃ e, site.route fs r.target = .index p e) →
    ¬ site.Inside fs p → response = noSuchFile

/-- Something is told of an entry: it can be opened, or the client's copy is current. -/
def Told (c : Conditions) (e : Entry) : Prop :=
  e.locked = false ∨ c.current e.modified = .ok true

/-- An index file outside the root, for a directory inside, that a request is told of. -/
structure EscapingIndex (site : Site) (fs : FileSystem) (r : Request) (p : Bytes) (e : Entry) :
    Prop where
  folder : site.NamesFolder fs r.target
  asked : site.asksFolder r.target = true
  found : indexFile? fs (site.ownPath r.target) site.settings.preview.indexFiles = some (p, e)
  outside : ¬ site.Inside fs p
  told : Told (Fetch.ofRequest r false).conditions e

/-! ## Paths inside the root -/

theorem isAbsolute_rootPath (site : Site) : Path.isAbsolute site.rootPath = true :=
  Path.isAbsolute_extend site.root rfl

theorem isAbsolute_ownPath (site : Site) (target : List Char) :
    Path.isAbsolute (site.ownPath target) = true :=
  Path.isAbsolute_extend _ (isAbsolute_rootPath site)

/-- A path that starts at the top is inside when it passes the test. -/
theorem inside_iff (absolute : Path.isAbsolute p = true) :
    site.Inside fs p ↔ site.contains fs p = true := by
  unfold Inside contains
  cases resolved : fs.canonical p with
  | error x => simp
  | ok l =>
      have real : fs.IsReal l := FileSystem.isReal_of_canonical absolute resolved
      simp [real]

/-- **A target whose own path is not inside is answered as if nothing were there.** -/
theorem route_of_not_inside {target : List Char}
    (outside : ¬ site.Inside fs (site.ownPath target)) :
    site.route fs target = .missing ∨ site.route fs target = .outside := by
  rw [inside_iff (isAbsolute_ownPath site target), Bool.not_eq_true] at outside
  cases there : fs.stat (site.ownPath target) with
  | error x => exact Or.inl (route_of_taken ⟨x, there⟩)
  | ok entry => exact Or.inr (route_of_taken ⟨⟨entry, there⟩, outside⟩)

/-- **What is shown is inside, if it is no index file.** -/
theorem inside_of_shown? {target : List Char} (shown : (site.route fs target).shown? = some p) :
    site.Inside fs p ∨ ∃ e, site.route fs target = .index p e := by
  have own := isAbsolute_ownPath site target
  have taken := taken_route site fs target
  cases way : site.route fs target with
  | file q e =>
      rw [way] at shown taken
      obtain ⟨rfl, -, inside, -⟩ := taken
      cases shown
      exact Or.inl ((inside_iff own).2 inside)
  | index q e =>
      rw [way] at shown
      cases shown
      exact Or.inr ⟨e, rfl⟩
  | listing q title =>
      rw [way] at shown taken
      obtain ⟨⟨-, inside⟩, -, -, -, rfl, -⟩ := taken
      cases shown
      exact Or.inl ((inside_iff own).2 inside)
  | missing | outside | redirect | withheld =>
      rw [way] at shown
      cases shown

/-! ## What a route tells -/

theorem status_noSuchFile : noSuchFile.status = 404 := Reply.status_notFound

/-- A regular file can be opened when it is not locked. -/
theorem unlocked_iff_content (regular : e.node.isFile = true) :
    e.locked = false ↔ ∃ content, e.content = .ok content := by
  obtain ⟨node, modified, locked⟩ := e
  cases node with
  | file content => cases locked <;> simp [Entry.content]
  | _ => exact absurd regular Bool.false_ne_true

/-- **A regular file is told of exactly when it is current or can be opened**, and is
otherwise answered as if it were not there. -/
theorem serveFile_told (there : fs.stat p = .ok e) (regular : e.node.isFile = true)
    (h : serveFile fs f p e = .ok reply) :
    Told f.conditions e ∧ (reply.response.status = 200 ∨ reply.response.status = 304) ∨
      ¬ Told f.conditions e ∧ reply.response = Reply.notFound.response := by
  obtain ⟨date, -, ⟨current, rfl⟩ | ⟨stale, ⟨content, opened, rfl⟩ | ⟨x, refused, rfl⟩⟩⟩ :=
    serveFile_cases there h
  · exact Or.inl ⟨Or.inr current, (Reply.status_ofBuild _ _ _ _).symm⟩
  · refine Or.inl ⟨Or.inl ((unlocked_iff_content regular).2 ⟨content, opened⟩), Or.inl ?_⟩
    exact (Reply.status_ofBuild _ _ _ _).elim id id
  · refine Or.inr ⟨?_, rfl⟩
    rintro (opened | current)
    · obtain ⟨content, opened⟩ := (unlocked_iff_content regular).1 opened
      rw [refused] at opened
      cases opened
    · rw [stale] at current
      cases current

/-- A success on a way that shows nothing is empty. -/
theorem response_of_shown?_eq_none {way : Route} (nothing : way.shown? = none)
    (h : way.reply fs f = .ok reply)
    (success : reply.response.status = 200 ∨ reply.response.status = 304) :
    reply.response = Response.fallback := by
  cases way with
  | missing | outside | withheld =>
      rw [response_of_refused rfl h, Reply.status_notFound] at success
      exact absurd success (by decide)
  | redirect =>
      cases h
      rcases Reply.ofBuild_cases "301" 301
          [("Location", String.ofList (withSolidus f.target)), ("Content-Length", "0")] []
        with ⟨fields, -, built⟩ | fallback
      · rw [Reply.redirect, built] at success
        rcases success with success | success <;> cases success
      · exact fallback
  | file | index | listing => cases nothing

/-- **What an index file is answered with is a success exactly when it is told of.** -/
theorem response_of_index (h : site.handle fs r t = .ok x) (fetch : site.IsFetch r)
    (way : site.route fs r.target = .index p e) :
    Told (Fetch.ofRequest r false).conditions e ∧
        (x.response.status = 200 ∨ x.response.status = 304) ∨
      ¬ Told (Fetch.ofRequest r false).conditions e ∧ x.response = noSuchFile := by
  obtain ⟨isHead, reply, served, answer⟩ := exists_reply_of_isFetch h fetch
  obtain ⟨-, -, found⟩ := route_eq_iff.1 way
  obtain ⟨there, regular, -⟩ := stat_of_indexFile? found
  rw [way] at served
  rw [answer]
  rcases serveFile_told there regular served with ⟨told, success⟩ | ⟨untold, absent⟩
  · exact Or.inl ⟨told, success⟩
  · right
    refine ⟨untold, ?_⟩
    rw [Reply.withPreview, absent]
    rfl

/-- **A target whose own path is not inside is answered as if nothing were there.** -/
theorem response_of_not_inside (h : site.handle fs r t = .ok x) (fetch : site.IsFetch r)
    (outside : ¬ site.Inside fs (site.ownPath r.target)) : x.response = noSuchFile := by
  obtain ⟨isHead, reply, served, answer⟩ := exists_reply_of_isFetch h fetch
  have refused : (site.route fs r.target).refused = true := by
    rcases route_of_not_inside outside with way | way
    · rw [way]
      rfl
    · rw [way]
      rfl
  rw [answer, Reply.withPreview, response_of_refused refused served]
  rfl

/-- A success is about a file or a directory, or tells of none. -/
theorem shown_or_empty (h : site.handle fs r t = .ok x) (fetch : site.IsFetch r)
    (success : x.response.status = 200 ∨ x.response.status = 304) :
    (∃ p, (site.route fs r.target).shown? = some p) ∨ x.response = emptySuccess := by
  obtain ⟨isHead, reply, served, answer⟩ := exists_reply_of_isFetch h fetch
  cases nothing : (site.route fs r.target).shown? with
  | some p => exact Or.inl ⟨p, rfl⟩
  | none =>
      right
      rw [answer, Reply.status_withPreview] at success
      rw [answer, Reply.withPreview, response_of_shown?_eq_none nothing served success]
      rfl

/-! ## Containment -/

/-- **A site tells of nothing outside its root, but for an index file that leads
there.**  Whatever the links of the file system are and whatever the settings name as
index files, an answer is contained unless the request is for a directory whose first
index file leads outside and something is told of it; and then it is not. -/
theorem contained_iff_no_escapingIndex (h : site.handle fs r t = .ok x) :
    site.Contained fs r x.response ↔
      ¬ (site.IsFetch r ∧ ∃ p e, site.EscapingIndex fs r p e) := by
  constructor
  · rintro ⟨-, -, hidden⟩ ⟨fetch, p, e, escape⟩
    have way : site.route fs r.target = .index p e :=
      route_of_taken ⟨escape.folder, escape.asked, escape.found⟩
    have absent : x.response = noSuchFile := hidden p fetch (Or.inr ⟨e, way⟩) escape.outside
    rcases response_of_index h fetch way with ⟨-, success⟩ | ⟨untold, -⟩
    · rw [absent, status_noSuchFile] at success
      exact absurd success (by decide)
    · exact untold escape.told
  · intro noEscape
    -- an index file outside that were told of would be one that escapes
    have untold : ∀ p e, site.IsFetch r → site.route fs r.target = .index p e →
        ¬ site.Inside fs p → x.response = noSuchFile := by
      intro p e fetch way outside
      obtain ⟨folder, asked, found⟩ := route_eq_iff.1 way
      rcases response_of_index h fetch way with ⟨told, -⟩ | ⟨-, absent⟩
      · exact absurd ⟨fetch, p, e, folder, asked, found, outside, told⟩ noEscape
      · exact absent
    refine ⟨fun fetch => shown_or_empty h fetch, ?_, ?_⟩
    · intro p fetch shown success
      rcases inside_of_shown? shown with inside | ⟨e, way⟩
      · exact inside
      · by_cases inside : site.Inside fs p
        · exact inside
        · rw [untold p e fetch way inside, status_noSuchFile] at success
          exact absurd success (by decide)
    · rintro p fetch (rfl | ⟨e, way⟩) outside
      · exact response_of_not_inside h fetch outside
      · exact untold p e fetch way outside

namespace Example

/-- A site in `/root` whose index file is a link to a file beside it. -/
def beside : FileSystem where
  entries :=
    [([Bytes.ofString "secret.txt"], { node := .file (Bytes.ofString "secret") }),
      ([Bytes.ofString "root"], { node := .directory }),
      ([Bytes.ofString "root", Bytes.ofString "index.html"],
        { node := .link (Bytes.ofString "../secret.txt") })]
  workingDirectory := [Bytes.ofString "root"]
  distinct := by decide

/-- A site in `/root` whose index file is a link to a file of its own. -/
def within : FileSystem where
  entries :=
    [([Bytes.ofString "root"], { node := .directory }),
      ([Bytes.ofString "root", Bytes.ofString "home.html"],
        { node := .file (Bytes.ofString "home") }),
      ([Bytes.ofString "root", Bytes.ofString "index.html"],
        { node := .link (Bytes.ofString "home.html") })]
  workingDirectory := [Bytes.ofString "root"]
  distinct := by decide

/-- The site of either. -/
def inRoot : Site where
  settings := Settings.standard
  root := [Bytes.ofString "root"]

end Example

/-- An index file that is a link within the root is given, and its answer contained. -/
theorem contained_of_link_within :
    ∃ x, Site.open Example.within Settings.standard = .ok Example.inRoot ∧
      Example.inRoot.handle Example.within (Example.request .get "/") Example.timing = .ok x ∧
      x.response.body = Bytes.ofString "home" ∧
      Example.inRoot.Contained Example.within (Example.request .get "/") x.response := by
  have answer : ((Example.inRoot.handle Example.within (Example.request .get "/")
      Example.timing).toOption.map fun x => x.response.body) = some (Bytes.ofString "home") := by
    decide +kernel
  have index : indexFile? Example.within (Example.inRoot.ownPath ['/'])
      Example.inRoot.settings.preview.indexFiles =
        some (Bytes.ofString "/root/index.html", { node := .file (Bytes.ofString "home") }) := by
    decide
  have inside : Example.inRoot.contains Example.within (Bytes.ofString "/root/index.html") = true := by
    decide
  obtain ⟨x, handled, body⟩ := exists_of_toOption_map answer
  refine ⟨x, rfl, handled, body, (contained_iff_no_escapingIndex handled).2 ?_⟩
  rintro ⟨-, p, e, escape⟩
  obtain ⟨rfl, rfl⟩ := Prod.mk.inj (Option.some.inj (index.symm.trans escape.found))
  exact escape.outside ((inside_iff (by decide)).2 inside)

/-- **The answer to a request need not be contained**: an index file that is a link to
a file beside the root is given with all its bytes. -/
theorem not_contained_of_link_beside :
    ∃ x, Site.open Example.beside Settings.standard = .ok Example.inRoot ∧
      Example.inRoot.handle Example.beside (Example.request .get "/") Example.timing = .ok x ∧
      x.response.status = 200 ∧ x.response.body = Bytes.ofString "secret" ∧
      ¬ Example.inRoot.Contained Example.beside (Example.request .get "/") x.response := by
  have answer : ((Example.inRoot.handle Example.beside (Example.request .get "/")
      Example.timing).toOption.map fun x => (x.response.status, x.response.body)) =
        some (200, Bytes.ofString "secret") := by
    decide +kernel
  have leads : Example.beside.canonical (Bytes.ofString "/root/index.html") =
      .ok [Bytes.ofString "secret.txt"] := rfl
  have shown : (Example.inRoot.route Example.beside ['/']).shown? =
      some (Bytes.ofString "/root/index.html") := by
    decide
  obtain ⟨x, handled, told⟩ := exists_of_toOption_map answer
  obtain ⟨success, body⟩ := Prod.mk.inj told
  refine ⟨x, rfl, handled, success, body, ?_⟩
  intro contained
  obtain ⟨l, canonical, -, below⟩ := contained.shown _ ⟨Or.inl rfl, rfl⟩ shown (Or.inl success)
  rw [leads] at canonical
  cases canonical
  exact absurd below (by decide)

end StaticPreview.Site
