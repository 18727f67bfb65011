/-
# StaticPreview.Proofs.Site.Links -- the links of a listing lead back to its entries

A listing gives every entry of its directory a link.  Followed from the page, which is
any target that asks for the directory with its solidus, the link leads to the path of
the directory with exactly the name of the entry behind it, and asks for a directory
exactly when the item shows one.  So what is shown as a directory is not redirected, and
what is shown as anything else is not refused for its solidus: when it stands inside the
root it is the file that the link is answered with (`link_leads_back`).

Names that are no UTF-8 are shown with replacements, and their links lead elsewhere or
nowhere.  A name with a backslash leads to its own page whether it is UTF-8 or not, since
an ASCII byte is shown as it is.
-/
import StaticPreview.Proofs.FileSystem.Listed
import StaticPreview.Proofs.Listing.Follow
import StaticPreview.Proofs.Site.Containment
import StaticPreview.Proofs.Text.Lossy

namespace StaticPreview

open StaticPreview.Text

namespace Listing

variable {fs : FileSystem} {directory name : Bytes} {e e' : Entry} {title page : List Char}
  {entries : List (Bytes × Entry)}

/-- The line of every entry stands in the page. -/
theorem itemLine_infix_of_render (listed : fs.list directory = .ok entries)
    (member : (name, e) ∈ entries) (shown : render fs directory title = .ok page) :
    itemLine (itemOf fs directory name e) <:+: page := by
  have item : itemOf fs directory name e ∈
      sorted (entries.map fun entry => itemOf fs directory entry.1 entry.2) := by
    rw [mem_sorted_iff]
    exact List.mem_map.2 ⟨(name, e), member, rfl⟩
  have shape : page = Listing.page title
      (entries.map fun entry => itemOf fs directory entry.1 entry.2) := by
    rw [render, listed] at shown
    exact (Except.ok.inj shown).symm
  have lines := List.infix_of_mem_flatten (List.mem_map_of_mem (f := itemLine) item)
  rw [shape, Listing.page, pageOf]
  refine lines.trans ?_
  rw [← List.flatMap_def]
  exact List.infix_append _ _ _

/-- What is not shown as a directory leads to none. -/
theorem isDirectory_of_kind_ne (listed : fs.list directory = .ok entries)
    (member : (name, e) ∈ entries) (plain : Path.IsPlain name)
    (shown : (itemOf fs directory name e).kind ≠ .directory)
    (there : fs.stat (Path.push directory name) = .ok e') : e'.node.isDirectory = false := by
  unfold itemOf at shown
  dsimp only at shown
  cases link : e.node.isLink with
  | true =>
      rw [link, if_pos rfl, FileSystem.leadsToDirectory, there] at shown
      cases folder : e'.node.isDirectory with
      | false => rfl
      | true => simp [folder] at shown
  | false =>
      rw [FileSystem.eq_of_stat_push listed member plain link there]
      cases folder : e.node.isDirectory with
      | false => rfl
      | true => simp [link, folder] at shown

end Listing

namespace Site

variable {site : Site} {fs : FileSystem} {target : List Char} {i : Listing.Item}
  {directory name : Bytes} {e : Entry} {entries : List (Bytes × Entry)}

/-! ## What a followed link asks for -/

theorem ownPath_follow (folder : (Target.split target).1.getLast? = some '/')
    (entry : Target.isEntry i.name = true) (whole : '/' ∉ i.name) :
    site.ownPath (Listing.follow target i.href) =
      Path.push (site.ownPath target) (Utf8.encode i.name) := by
  rw [ownPath, Target.resolve_fsPath, Listing.names_follow folder entry whole,
    Path.extend_append_singleton]
  rfl

theorem ownPath_follow_backslash (folder : (Target.split target).1.getLast? = some '/')
    (backslash : '\\' ∈ i.name) (whole : '/' ∉ i.name) :
    site.ownPath (Listing.follow target i.href) = site.ownPath target := by
  rw [ownPath, Target.resolve_fsPath, Listing.names_follow_backslash folder backslash whole]
  rfl

theorem asksFolder_follow (filled : i.name ≠ []) (whole : '/' ∉ i.name) :
    site.asksFolder (Listing.follow target i.href) = true ↔ i.kind = .directory := by
  rw [← Listing.getLast?_follow filled whole, asksFolder, Target.resolve, decide_eq_true_iff,
    Listing.split_follow]

theorem urlPath_follow (folder : (Target.split target).1.getLast? = some '/')
    (filled : i.name ≠ []) (whole : '/' ∉ i.name) :
    (Target.resolve site.rootPath (Listing.follow target i.href)).urlPath.getLast? = some '/' ↔
      i.kind = .directory := by
  rw [← Listing.getLast?_decode_follow folder filled whole, Target.resolve, Listing.split_follow]

theorem slash_not_mem_name (proper : Path.IsName name) :
    '/' ∉ (Listing.itemOf fs directory name e).name := by
  intro member
  exact proper.no_slash ((Utf8.mem_decodeLossy_ascii (by decide) (by decide) name).1 member)

theorem isPlain_of_text {text : List Char} (proper : Path.IsName name)
    (written : name = Utf8.encode text) (noBackslash : '\\' ∉ text) : Path.IsPlain name := by
  apply proper.isPlain
  rw [written, Utf8.mem_encode_ascii (by decide)]
  exact noBackslash

/-- **The link of a listed entry leads back to it.** -/
theorem link_leads_back (folder : (Target.split target).1.getLast? = some '/')
    (listed : fs.list (site.ownPath target) = .ok entries) (member : (name, e) ∈ entries)
    (proper : Path.IsName name) :
    let item := Listing.itemOf fs (site.ownPath target) name e
    let next := Listing.follow target item.href
    let path := Path.push (site.ownPath target) name
    (∀ title page, Listing.render fs (site.ownPath target) title = .ok page →
      "<li><a href=\"".toList ++ item.href ++ "\">".toList <:+: page) ∧
    (∀ text, name = Utf8.encode text → '\\' ∉ text →
      site.ownPath next = path ∧
      (site.asksFolder next = true ↔ item.kind = .directory) ∧
      ((Target.resolve site.rootPath next).urlPath.getLast? = some '/' ↔
        item.kind = .directory) ∧
      (item.kind = .directory → site.route fs next ≠ .redirect) ∧
      (item.kind ≠ .directory → ∀ e', fs.stat path = .ok e' → site.contains fs path = true →
        site.route fs next = .file path e')) ∧
    (0x5C ∈ name → site.ownPath next = site.ownPath target) := by
  intro item next path
  have whole : '/' ∉ item.name := slash_not_mem_name proper
  refine ⟨?_, ?_, ?_⟩
  · intro title page shown
    exact (Listing.href_infix_itemLine item).trans
      (Listing.itemLine_infix_of_render listed member shown)
  · intro text written noBackslash
    have plain := isPlain_of_text proper written noBackslash
    have read : item.name = text := by
      rw [← Utf8.decodeLossy_encode text, ← written]
      rfl
    have entry : Target.isEntry item.name = true := by
      rw [read]
      exact (Target.isEntry_of_isPlain (written ▸ plain)).1
    have filled : item.name ≠ [] := ((Target.isEntry_iff _).1 entry).1
    have own : site.ownPath next = path := by
      rw [ownPath_follow folder entry whole, read, ← written]
    have asked : site.asksFolder next = true ↔ item.kind = .directory :=
      asksFolder_follow filled whole
    have decoded : (Target.resolve site.rootPath next).urlPath.getLast? = some '/' ↔
        item.kind = .directory := urlPath_follow folder filled whole
    refine ⟨own, asked, decoded, ?_, ?_⟩
    · intro shown way
      obtain ⟨-, noSolidus⟩ := route_eq_iff.1 way
      rw [asked.2 shown] at noSolidus
      cases noSolidus
    · intro shown e' there inside
      have noFolder := Listing.isDirectory_of_kind_ne listed member plain shown there
      have noSolidus : site.asksFolder next = false :=
        Bool.eq_false_iff.2 fun solidus => shown (asked.1 solidus)
      exact route_of_taken ⟨own.symm, there, inside, noFolder, noSolidus,
        fun solidus => shown (decoded.1 solidus)⟩
  · intro backslash
    have shown : '\\' ∈ item.name :=
      (Utf8.mem_decodeLossy_ascii (by decide) (by decide) name).2 backslash
    exact ownPath_follow_backslash folder shown whole

namespace Example

/-- A site in `/root` with a link to a folder, of a name that has to be escaped, and a
name with a backslash. -/
def oddNames : FileSystem where
  entries :=
    [([Bytes.ofString "root"], { node := .directory }),
      ([Bytes.ofString "root", Bytes.ofString "d"], { node := .directory }),
      ([Bytes.ofString "root", Bytes.ofString "50%2F?"], { node := .link (Bytes.ofString "d") }),
      ([Bytes.ofString "root", Bytes.ofString "..\\d"], { node := .file [] })]
  workingDirectory := [Bytes.ofString "root"]
  distinct := by decide

/-- What the root of that site lists. -/
def oddEntries : List (Bytes × Entry) :=
  [(Bytes.ofString "d", { node := .directory }),
    (Bytes.ofString "50%2F?", { node := .link (Bytes.ofString "d") }),
    (Bytes.ofString "..\\d", { node := .file [] })]

end Example

/-- From an oddly spelt page, the link to a folder leads to it and a backslash nowhere. -/
theorem link_leads_back_oddNames :
    let target := "/%E4/../?v=1".toList
    let folder := Listing.follow target "50%252F%3F/".toList
    let backslash := Listing.follow target "..%5Cd".toList
    Example.oddNames.list (Example.inRoot.ownPath target) = .ok Example.oddEntries ∧
      Example.inRoot.ownPath folder = Bytes.ofString "/root/50%2F?" ∧
      Example.inRoot.asksFolder folder = true ∧
      Example.inRoot.ownPath backslash = Example.inRoot.ownPath target := by
  intro target folder backslash
  have solidus : (Target.split target).1.getLast? = some '/' := by decide
  have listed : Example.oddNames.list (Example.inRoot.ownPath target) = .ok Example.oddEntries := by
    decide +kernel
  have first : (Bytes.ofString "50%2F?", { node := .link (Bytes.ofString "d") }) ∈
      Example.oddEntries := List.mem_cons_of_mem _ List.mem_cons_self
  have second : (Bytes.ofString "..\\d", { node := .file [] }) ∈ Example.oddEntries :=
    List.mem_cons_of_mem _ (List.mem_cons_of_mem _ List.mem_cons_self)
  obtain ⟨-, link, -⟩ := link_leads_back solidus listed first
    ⟨by decide, by decide, by decide, by decide, by decide⟩
  obtain ⟨-, -, stays⟩ := link_leads_back solidus listed second
    ⟨by decide, by decide, by decide, by decide, by decide⟩
  obtain ⟨own, asked, -⟩ := link "50%2F?".toList rfl (by decide)
  have leads : (Listing.itemOf Example.oddNames (Example.inRoot.ownPath target)
      (Bytes.ofString "50%2F?") { node := .link (Bytes.ofString "d") }).kind = .directory := by
    decide +kernel
  have folderHref : (Listing.itemOf Example.oddNames (Example.inRoot.ownPath target)
      (Bytes.ofString "50%2F?") { node := .link (Bytes.ofString "d") }).href =
        "50%252F%3F/".toList := by
    decide +kernel
  have backslashHref : (Listing.itemOf Example.oddNames (Example.inRoot.ownPath target)
      (Bytes.ofString "..\\d") { node := .file [] }).href = "..%5Cd".toList := by
    decide +kernel
  rw [folderHref] at own asked
  rw [backslashHref] at stays
  refine ⟨listed, ?_, asked.2 leads, stays (by decide)⟩
  rw [own]
  decide

end Site

end StaticPreview
