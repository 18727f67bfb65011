/-
# StaticPreview.Proofs.Site.Reachable -- every file can be asked for, and comes whole

A file that can be opened stands at some names below the root, over links or not.  Any
target that resolves to these names and does not end in a solidus is answered with its
bytes, its length, its type and its date, when the request is made without a date; and one
such target can always be written, with any query behind it, from the names themselves:
`served_whole`.

No name is out of reach: what is special in a target is escaped in it, and read back
before the file is looked for.  The target is never too long either, for a path that leads
anywhere is not (`length_link_le_maxLength`); only a query can make it so.
-/
import StaticPreview.Proofs.Site.Containment
import StaticPreview.Proofs.Site.File
import StaticPreview.Proofs.Target.Link

namespace StaticPreview.Site

open StaticPreview.Text
open Time

/-- The path of some names below the root. -/
def pathOf (site : Site) (names : List (List Char)) : Bytes :=
  Path.extend site.rootPath (names.map Utf8.encode)

/-- A target that asks for the file that some names lead to. -/
structure Asks (site : Site) (names : List (List Char)) (target : List Char) : Prop where
  resolved : (Target.resolve site.rootPath target).fsPath = site.pathOf names
  /-- Its path does not end in a solidus, neither as it is written nor as it is read. -/
  written : (Target.split target).1.getLast? ≠ some '/'
  read : (Target.Percent.decode (Target.split target).1).getLast? ≠ some '/'

/-- A path that leads to a regular file inside the root which can be opened. -/
structure Available (site : Site) (fs : FileSystem) (p : Bytes) (e : Entry) (content : Bytes) :
    Prop where
  there : fs.stat p = .ok e
  inside : site.Inside fs p
  regular : e.node = .file content
  unlocked : e.locked = false
  dated : inCalendar e.modified.seconds = true

variable {site : Site} {fs : FileSystem} {r : Request} {t : Timing} {names : List (List Char)}
  {target : List Char} {e : Entry} {content : Bytes}

theorem isAbsolute_pathOf (site : Site) (names : List (List Char)) :
    Path.isAbsolute (site.pathOf names) = true :=
  Path.isAbsolute_extend _ (isAbsolute_rootPath site)

/-- **A target that asks for an available file is answered with it.** -/
theorem route_of_asks (asks : site.Asks names target)
    (available : site.Available fs (site.pathOf names) e content) :
    site.route fs target = .file (site.pathOf names) e := by
  have contains : site.contains fs (site.pathOf names) = true :=
    (inside_iff (isAbsolute_pathOf site names)).1 available.inside
  have noDirectory : e.node.isDirectory = false := by
    rw [available.regular]
    rfl
  have noSolidus : site.asksFolder target = false := by
    rw [asksFolder, Target.resolve, decide_eq_false_iff_not]
    exact asks.written
  apply route_of_taken
  exact ⟨asks.resolved.symm, available.there, contains, noDirectory, noSolidus, asks.read⟩

theorem asks_unsplit_link {query : Option (List Char)} (nonempty : names ≠ [])
    (plain : ∀ name ∈ names, Path.IsPlain (Utf8.encode name)) (sent : ∀ q ∈ query, '#' ∉ q) :
    site.Asks names (Target.unsplit (Target.link names) query) := by
  obtain ⟨path, slash, last⟩ := Target.resolve_link site.rootPath nonempty plain sent
  rw [Target.resolve, decide_eq_false_iff_not] at slash
  exact ⟨path, slash, last⟩

/-- The target of a path that leads somewhere is not too long. -/
theorem length_link_le_maxLength (plain : ∀ name ∈ names, Path.IsPlain (Utf8.encode name))
    (there : fs.stat (site.pathOf names) = .ok e) :
    (Utf8.encode (Target.link names)).length ≤ Uri.maxLength := by
  have filled := Target.ne_nil_of_plain plain
  have plainBytes : ∀ name ∈ names.map Utf8.encode, Path.IsPlain name := by
    intro name member
    obtain ⟨text, listed, rfl⟩ := List.mem_map.1 member
    exact plain text listed
  have written := Target.length_link_le filled
  have path : site.rootPath.length + (names.map Utf8.encode).flatten.length ≤
      (site.pathOf names).length := Path.length_extend_le plainBytes
  have short : (site.pathOf names).length ≤ 4095 := FileSystem.length_le_of_stat there
  show _ ≤ 65534
  omega

/-- **Every file can be asked for, and is given byte for byte.**  Whatever its names hold,
a GET without a date for any target that asks for it is answered with the whole file; the
target written from the names is such a one and can be sent, and with a query behind it it
still is, and can be sent exactly when the query can and the whole is not too long. -/
theorem served_whole (nonempty : names ≠ [])
    (plain : ∀ name ∈ names, Path.IsPlain (Utf8.encode name))
    (available : site.Available fs (site.pathOf names) e content) :
    (∀ (r : Request) (t : Timing), r.method = .get → site.settings.isProbe r.target = false →
      r.headers.values "if-modified-since" = [] → site.Asks names r.target →
      ∃ x date, site.handle fs r t = .ok x ∧ e.modified.httpDate = .ok date ∧
        x.response.Gives (site.pathOf names) content date) ∧
    (Uri.target (Utf8.encode (Target.link names)) = .ok (Target.link names) ∧
      site.Asks names (Target.link names)) ∧
    ∀ query : List Char,
      let target := Target.unsplit (Target.link names) (some query)
      (Uri.target (Utf8.encode target) = .ok target ↔
          Uri.IsQuery query ∧ (Utf8.encode target).length ≤ Uri.maxLength) ∧
        (Uri.IsQuery query → site.Asks names target) := by
  have filled := Target.ne_nil_of_plain plain
  obtain ⟨c, rest, whole⟩ := Target.exists_link_eq nonempty filled
  have clean : Uri.IsPath ('/' :: c :: rest) := whole ▸ Target.isPath_link names
  refine ⟨?_, ⟨?_, ?_⟩, ?_⟩
  · intro r t get noProbe undated asks
    obtain ⟨date, dated⟩ := Instant.exists_httpDate available.dated
    have route := route_of_asks asks available
    have file : (site.route fs r.target).file? = some (site.pathOf names, e) := by
      rw [route]
      rfl
    -- whatever is said about tags, there is no date to compare with
    have stale : (fetchOf r).conditions.current e.modified = .ok false :=
      Conditions.current_of_modifiedSince_eq_none (Request.headerText?_of_values_eq_nil undated)
    have opened := content_of_unlocked available.regular available.unlocked
    obtain ⟨x, handled, gives⟩ := handle_opened noProbe get file dated stale opened t
    exact ⟨x, date, handled, dated, gives⟩
  · have short := length_link_le_maxLength plain available.there
    rw [whole] at short ⊢
    exact Uri.target_of_isPath clean short
  · have asks : site.Asks names (Target.unsplit (Target.link names) none) :=
      asks_unsplit_link nonempty plain (by simp)
    exact asks
  · intro query
    refine ⟨?_, ?_⟩
    · rw [whole]
      exact Uri.target_unsplit_iff clean query
    · intro sendable
      apply asks_unsplit_link nonempty plain
      rintro q ⟨⟩
      exact Uri.not_mem_of_all (b := 0x23) (by decide) (by decide) sendable

namespace Example

/-- A site in `/root` with a file of an awkward name, in a folder and behind a link to
it. -/
def awkward : FileSystem where
  entries :=
    [([Bytes.ofString "root"], { node := .directory }),
      ([Bytes.ofString "root", Bytes.ofString "d"], { node := .directory }),
      ([Bytes.ofString "root", Bytes.ofString "é"], { node := .link (Bytes.ofString "./d") }),
      ([Bytes.ofString "root", Bytes.ofString "d", Bytes.ofString "50%25 ?#.txt"],
        { node := .file [0xFF, 0x00, 0x0A] })]
  workingDirectory := [Bytes.ofString "root"]
  distinct := by decide

end Example

/-- A file behind a link, of a name that has to be escaped, is given with all its bytes. -/
theorem served_whole_awkward :
    let r := Example.request .get "/%C3%A9/50%2525%20%3F%23.txt?v=1"
    Site.open Example.awkward Settings.standard = .ok Example.inRoot ∧
      ∃ x date, Example.inRoot.handle Example.awkward r Example.timing = .ok x ∧
        x.response.Gives (Bytes.ofString "/root/é/50%25 ?#.txt") [0xFF, 0x00, 0x0A] date := by
  intro r
  have plain : ∀ name ∈ ["é".toList, "50%25 ?#.txt".toList], Path.IsPlain (Utf8.encode name) := by
    simp only [List.mem_cons, List.not_mem_nil, or_false]
    rintro name (rfl | rfl)
    · exact ⟨by decide, by decide, by decide, by decide, by decide, by decide⟩
    · exact ⟨by decide, by decide, by decide, by decide, by decide, by decide⟩
  have contains : Example.inRoot.contains Example.awkward
      (Example.inRoot.pathOf ["é".toList, "50%25 ?#.txt".toList]) = true := by
    decide +kernel
  have available : Example.inRoot.Available Example.awkward
      (Example.inRoot.pathOf ["é".toList, "50%25 ?#.txt".toList])
      { node := .file [0xFF, 0x00, 0x0A] } [0xFF, 0x00, 0x0A] :=
    ⟨rfl, (inside_iff (isAbsolute_pathOf _ _)).2 contains, rfl, rfl, by decide⟩
  obtain ⟨served, -, written⟩ := served_whole (by simp) plain available
  have asks := (written "v=1".toList).2 (by decide)
  obtain ⟨x, date, handled, -, gives⟩ := served r Example.timing rfl (by decide) rfl asks
  exact ⟨rfl, x, date, handled, gives⟩

end StaticPreview.Site
