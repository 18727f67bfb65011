/-
# StaticPreview.Proofs.Site.IndexFile -- a directory is answered with its first index file

The settings name index files in order, and the first of them that leads to a regular file
stands for a directory: whatever else is named before it is passed over, and nothing behind
it is looked at (`indexFile?_of_first`).  So the names behind it have no influence on any
answer to a request for the directory.

The same file has a target of its own, which is the path of the request with the name
written behind it.  A name that is one component of a path is read from that target as it
stands in the settings, so both targets end in the same file, with the same conditions,
and are answered alike, in the response as in the error log: `index_eq_direct`.  Two things
can make a difference, and are asked for: the direct target may be one that tools ask for
on their own, and the file may stand outside the root, where only its own target is looked
at.
-/
import StaticPreview.Proofs.Site.File
import StaticPreview.Proofs.Site.Links

namespace StaticPreview

open StaticPreview.Text

/-! ## Names -/

/-- A text that is one component of a path, whatever reads it, and no step. -/
structure Path.IsComponent (name : List Char) : Prop where
  filled : name ≠ []
  noHere : name ≠ ['.']
  noUp : name ≠ ['.', '.']
  noSlash : '/' ∉ name
  noBackslash : '\\' ∉ name

theorem Path.mem_push {base part : Bytes} {b : UInt8} (member : b ∈ part) : b ∈ push base part := by
  unfold push
  split
  · exact member
  · split
    · exact List.mem_append_right _ member
    · exact List.mem_append_right _ (List.mem_cons_of_mem _ member)

theorem FileSystem.zero_not_mem_of_stat {fs : FileSystem} {p : Bytes} {e : Entry}
    (there : fs.stat p = .ok e) : 0 ∉ p := by
  intro member
  obtain ⟨l, leads, -⟩ := canonical_of_stat there
  rw [canonical, if_pos member] at leads
  cases leads

/-- A name that leads to a regular file of a directory. -/
def FileSystem.NamesFile (fs : FileSystem) (directory : Bytes) (name : String) : Prop :=
  ∃ e, fs.stat (Path.push directory (Bytes.ofString name)) = .ok e ∧ e.node.isFile = true

instance (fs : FileSystem) (directory : Bytes) (name : String) :
    Decidable (fs.NamesFile directory name) :=
  match there : fs.stat (Path.push directory (Bytes.ofString name)) with
  | .ok e =>
      decidable_of_iff (e.node.isFile = true)
        ⟨fun regular => ⟨e, there, regular⟩,
          fun ⟨_, same, regular⟩ => Except.ok.inj (there.symm.trans same) ▸ regular⟩
  | .error _ => .isFalse fun ⟨_, same, _⟩ => nomatch there.symm.trans same

namespace Site

variable {site : Site} {fs : FileSystem} {f : Fetch} {r : Request} {target : List Char}
  {directory : Bytes} {before after : List String} {name : String} {e : Entry}

theorem isEntry_of_isComponent (single : Path.IsComponent name.toList)
    (there : fs.stat (Path.push directory (Bytes.ofString name)) = .ok e) :
    Target.isEntry name.toList = true := by
  have noZero : '\x00' ∉ name.toList := fun member =>
    FileSystem.zero_not_mem_of_stat there
      (Path.mem_push ((Utf8.mem_encode_ascii (by decide) name.toList).2 member))
  rw [Target.isEntry_iff]
  exact ⟨single.filled, single.noHere, single.noUp, single.noBackslash, noZero⟩

/-! ## The first index file -/

/-- **The first name that leads to a regular file is the index file**, and what is named
behind it is not looked at. -/
theorem indexFile?_of_first (skipped : ∀ other ∈ before, ¬ fs.NamesFile directory other)
    (there : fs.stat (Path.push directory (Bytes.ofString name)) = .ok e)
    (regular : e.node.isFile = true) (after : List String) :
    indexFile? fs directory (before ++ name :: after) =
      some (Path.push directory (Bytes.ofString name), e) := by
  induction before with
  | nil => simp only [List.nil_append, indexFile?, there, regular, if_true]
  | cons other before ih =>
      have rest := ih fun n member => skipped n (List.mem_cons_of_mem _ member)
      have passed : ¬ fs.NamesFile directory other := skipped other List.mem_cons_self
      rw [List.cons_append, indexFile?]
      cases found : fs.stat (Path.push directory (Bytes.ofString other)) with
      | error x => exact rest
      | ok entry =>
          dsimp only
          rw [if_neg fun file => passed ⟨entry, found, file⟩]
          exact rest

/-- A site with other index files. -/
def withIndexFiles (site : Site) (indexFiles : List String) : Site :=
  { site with
    settings :=
      { site.settings with preview := { site.settings.preview with indexFiles } } }

/-- **A request for a directory is answered with the first index file**, whatever is named
behind it. -/
theorem route_of_first (folder : site.NamesFolder fs target) (asked : site.asksFolder target = true)
    (named : site.settings.preview.indexFiles = before ++ name :: after)
    (skipped : ∀ other ∈ before, ¬ fs.NamesFile (site.ownPath target) other)
    (there : fs.stat (Path.push (site.ownPath target) (Bytes.ofString name)) = .ok e)
    (regular : e.node.isFile = true) :
    site.route fs target = .index (Path.push (site.ownPath target) (Bytes.ofString name)) e := by
  refine route_of_taken ⟨folder, asked, ?_⟩
  rw [named, indexFile?_of_first skipped there regular]

/-! ## The file by its own target -/

/-- The target of a file of the directory that a target asks for. -/
def fileTarget (target : List Char) (name : String) : List Char :=
  Listing.follow target (Target.Percent.encodePath name.toList)

/-- **A file that stands inside is answered with by its own target.** -/
theorem route_fileTarget (asked : site.asksFolder target = true)
    (single : Path.IsComponent name.toList)
    (there : fs.stat (Path.push (site.ownPath target) (Bytes.ofString name)) = .ok e)
    (regular : e.node.isFile = true)
    (inside : site.Inside fs (Path.push (site.ownPath target) (Bytes.ofString name))) :
    site.route fs (fileTarget target name) =
      .file (Path.push (site.ownPath target) (Bytes.ofString name)) e := by
  -- the target is the link that a listing would give the file
  let item : Listing.Item := ⟨name.toList, .plain⟩
  have entry : Target.isEntry item.name = true := isEntry_of_isComponent single there
  have folder : (Target.split target).1.getLast? = some '/' := of_decide_eq_true asked
  have own : site.ownPath (fileTarget target name) =
      Path.push (site.ownPath target) (Bytes.ofString name) :=
    ownPath_follow (i := item) folder entry single.noSlash
  have written : site.asksFolder (fileTarget target name) = false := by
    rw [Bool.eq_false_iff]
    intro solidus
    cases (asksFolder_follow (i := item) single.filled single.noSlash).1 solidus
  have read : (Target.resolve site.rootPath (fileTarget target name)).urlPath.getLast? ≠
      some '/' := by
    intro solidus
    cases (urlPath_follow (i := item) folder single.filled single.noSlash).1 solidus
  have absolute := Path.isAbsolute_push (Bytes.ofString name) (isAbsolute_ownPath site target)
  exact route_of_taken
    ⟨own.symm, there, (inside_iff absolute).1 inside, isDirectory_of_isFile regular, written, read⟩

/-! ## Answers -/

/-- Two answers with the same response that write down the same errors, or the same time
that ends the run. -/
inductive AnsweredAlike :
    Except Time.OutsideCalendar Exchange → Except Time.OutsideCalendar Exchange → Prop where
  | answered {x y : Exchange} (response : x.response = y.response)
      (errors : x.journal.errors = y.journal.errors) : AnsweredAlike (.ok x) (.ok y)
  | ended (outside : Time.OutsideCalendar) : AnsweredAlike (.error outside) (.error outside)

/-- What is made of one reply for two requests is alike. -/
theorem answeredAlike_map (reply : Except Time.OutsideCalendar Reply) (r r' : Request)
    (t t' : Timing) :
    AnsweredAlike (reply.map (site.exchangeOf r t)) (reply.map (site.exchangeOf r' t')) := by
  cases reply with
  | error outside => exact .ended outside
  | ok reply => exact .answered rfl (by rw [errors_exchangeOf, errors_exchangeOf])

/-- **A directory is answered like its first index file asked for by its own target**, and
the index files that are named behind it have no influence. -/
theorem index_eq_direct (method : r.method = .get ∨ r.method = .head)
    (noProbe : site.settings.isProbe r.target = false)
    (folder : site.NamesFolder fs r.target) (asked : site.asksFolder r.target = true)
    (named : site.settings.preview.indexFiles = before ++ name :: after)
    (skipped : ∀ other ∈ before, ¬ fs.NamesFile (site.ownPath r.target) other)
    (found : fs.NamesFile (site.ownPath r.target) name) (t t' : Timing) :
    (Path.IsComponent name.toList →
      site.Inside fs (Path.push (site.ownPath r.target) (Bytes.ofString name)) →
        site.settings.isProbe (fileTarget r.target name) = false →
          AnsweredAlike (site.handle fs r t)
            (site.handle fs { r with target := fileTarget r.target name } t')) ∧
      ∀ after', (site.withIndexFiles (before ++ name :: after')).handle fs r t =
        site.handle fs r t := by
  obtain ⟨e, there, regular⟩ := found
  have fetch : site.IsFetch r := ⟨method, noProbe⟩
  have way := route_of_first folder asked named skipped there regular
  refine ⟨?_, ?_⟩
  · intro single inside directNoProbe
    have direct := route_fileTarget asked single there regular inside
    have directFetch : site.IsFetch { r with target := fileTarget r.target name } :=
      ⟨method, directNoProbe⟩
    rw [handle_of_isFetch fetch, handle_of_isFetch directFetch, way, direct]
    exact answeredAlike_map (serveFile fs (fetchOf r) _ e) _ _ t t'
  · intro after'
    have other : (site.withIndexFiles (before ++ name :: after')).IsFetch r := fetch
    have otherWay : (site.withIndexFiles (before ++ name :: after')).route fs r.target =
        .index (Path.push (site.ownPath r.target) (Bytes.ofString name)) e :=
      route_of_first folder asked rfl skipped there regular
    rw [handle_of_isFetch fetch, handle_of_isFetch other, way, otherWay]
    rfl

namespace Example

/-- A site in `/root` whose folder has a folder `index.html`, and a link to a page under a
name that has to be escaped. -/
def linkedIndex : FileSystem where
  entries :=
    [([Bytes.ofString "root"], { node := .directory }),
      ([Bytes.ofString "root", Bytes.ofString "page"],
        { node := .file (Bytes.ofString "text") }),
      ([Bytes.ofString "root", Bytes.ofString "d"], { node := .directory }),
      ([Bytes.ofString "root", Bytes.ofString "d", Bytes.ofString "index.html"],
        { node := .directory }),
      ([Bytes.ofString "root", Bytes.ofString "d", Bytes.ofString "50% é?"],
        { node := .link (Bytes.ofString "../page") })]
  workingDirectory := [Bytes.ofString "root"]
  distinct := by decide

/-- That site, with index files of which two are passed over. -/
def linkedSite : Site :=
  inRoot.withIndexFiles ["../gone", "index.html", "50% é?", "/root/page"]

end Example

/-- The folder in an odd spelling is answered with the link, as is the link itself, and
what is named behind the link could be anything. -/
theorem index_eq_direct_linkedSite :
    let r := Example.request .get "/x/%2E./d/?v=1"
    AnsweredAlike (Example.linkedSite.handle Example.linkedIndex r Example.timing)
        (Example.linkedSite.handle Example.linkedIndex
          { r with target := "/x/%2E./d/50%25%20%C3%A9%3F".toList } Example.timing) ∧
      (Example.linkedSite.withIndexFiles ["../gone", "index.html", "50% é?"]).handle
          Example.linkedIndex r Example.timing =
        Example.linkedSite.handle Example.linkedIndex r Example.timing := by
  intro r
  have folder : Example.linkedSite.NamesFolder Example.linkedIndex r.target :=
    ⟨by decide +kernel, by decide +kernel⟩
  have skipped : ∀ other ∈ ["../gone", "index.html"],
      ¬ Example.linkedIndex.NamesFile (Example.linkedSite.ownPath r.target) other := by
    decide +kernel
  have found : Example.linkedIndex.NamesFile (Example.linkedSite.ownPath r.target) "50% é?" := by
    decide +kernel
  have inside : Example.linkedSite.contains Example.linkedIndex
      (Path.push (Example.linkedSite.ownPath r.target) (Bytes.ofString "50% é?")) = true := by
    decide +kernel
  have written : fileTarget r.target "50% é?" = "/x/%2E./d/50%25%20%C3%A9%3F".toList := by
    decide +kernel
  have named : Example.linkedSite.settings.preview.indexFiles =
      ["../gone", "index.html"] ++ "50% é?" :: ["/root/page"] := rfl
  have single : Path.IsComponent "50% é?".toList :=
    ⟨by decide, by decide, by decide, by decide, by decide⟩
  obtain ⟨alike, others⟩ := index_eq_direct (Or.inl rfl) (by decide +kernel) folder
    (by decide +kernel) named skipped found Example.timing Example.timing
  rw [written] at alike
  exact ⟨alike single ((inside_iff (by decide +kernel)).2 inside) (by decide +kernel), others []⟩

end Site

end StaticPreview
