/-
# StaticPreview.Proofs.Listing.Faithful -- a listing reads back as its directory

A page is read strictly (`document`): the fixed markup character for character, the title
and the heading, which must agree, and lines until the list ends, with nothing behind
the end.  Addresses are read with their escapes undone and texts with their entities.
What a page was made of is what is read of it (`read?_pageOf`).

So from the page of a directory whose names are UTF-8 and differ in lower case, its title
and every one of its entries can be read, each once, in the order of the names in lower
case, and nothing else; in whatever order the entries came, the page is the same
(`render_reads_back`).
-/
import StaticPreview.Proofs.FileSystem.Order
import StaticPreview.Proofs.Listing.Markup
import StaticPreview.Proofs.Listing.Order

namespace StaticPreview.Listing

open StaticPreview.Text

/-- A line of a listing as it reads back. -/
structure Line where
  /-- What the address of the link says, its escapes undone. -/
  link : List Char
  /-- What the line shows, its entities undone. -/
  text : List Char
  deriving DecidableEq, Repr

/-- A line of a page. -/
def line : Reader Line := do
  Reader.exactly "<li><a href=\"".toList
  let href ← Reader.run (· ≠ '"')
  Reader.exactly "\">".toList
  let text ← Reader.many shownChar
  Reader.exactly "</a></li>\n".toList
  pure { link := Target.Percent.decode href, text }

/-- The path that a title names. -/
def title : Reader (List Char) := do
  Reader.exactly "Directory listing for ".toList
  Reader.many shownChar

/-- A page: the path that it is about, and its lines. -/
def document : Reader (List Char × List Line) := do
  Reader.exactly opening
  let urlPath ← title
  Reader.exactly "</title>\n</head>\n<body>\n<h1>".toList
  let heading ← title
  if heading = urlPath then do
    Reader.exactly "</h1>\n<hr>\n<ul>\n".toList
    let lines ← Reader.many line
    Reader.exactly "</ul>\n<hr>\n</body>\n</html>\n".toList
    pure (urlPath, lines)
  else Reader.refuse

/-- What a whole page says. -/
def read? (page : List Char) : Option (List Char × List Line) := Reader.all? document page

/-! ## Reading what was written -/

/-- What is read of the line of an item. -/
def Item.line (i : Item) : Line := { link := i.link, text := i.text }

theorem itemLine_ne_nil (i : Item) : itemLine i ≠ [] := by
  rw [itemLine_eq]
  simp

theorem line_itemLine (i : Item) (rest : List Char) :
    line (itemLine i ++ rest) = some (i.line, rest) := by
  have quoted : ∀ c ∈ i.href, decide (c ≠ '"') = true := by
    intro c member
    have other : c ≠ '"' := by
      rintro rfl
      exact absurd (Target.Percent.isWritten_of_mem member) (by decide)
    simpa using other
  rw [itemLine_eq]
  simp only [List.append_assoc]
  refine (Reader.bind_of_eq_some (Reader.exactly_append _ _)).trans ?_
  refine (Reader.bind_of_eq_some (Reader.run_append quoted (by rintro c ⟨⟩; decide))).trans ?_
  refine (Reader.bind_of_eq_some (Reader.exactly_append _ _)).trans ?_
  refine (Reader.bind_of_eq_some (many_shownChar_escape i.text (by rfl))).trans ?_
  refine (Reader.bind_of_eq_some (Reader.exactly_append _ _)).trans ?_
  rw [Item.href, Target.Percent.decode_encodePath]
  rfl

theorem title_escape {rest tail : List Char} (urlPath : List Char) (tag : rest = '<' :: tail) :
    title ("Directory listing for ".toList ++ (escape urlPath ++ rest)) =
      some (urlPath, rest) :=
  (Reader.bind_of_eq_some (Reader.exactly_append _ _)).trans (many_shownChar_escape urlPath tag)

/-- **A page reads back as what it was made of.** -/
theorem read?_pageOf (urlPath : List Char) (items : List Item) :
    read? (pageOf urlPath items) = some (urlPath, items.map Item.line) := by
  have lines : Reader.many line (items.flatMap itemLine ++
      ("</ul>\n<hr>\n</body>\n</html>\n".toList ++ [])) =
        some (items.map Item.line, "</ul>\n<hr>\n</body>\n</html>\n".toList ++ []) := by
    apply Reader.many_flatMap_append line_itemLine itemLine_ne_nil
    rfl
  have whole : document (pageOf urlPath items ++ []) =
      some ((urlPath, items.map Item.line), []) := by
    unfold pageOf
    simp only [List.append_assoc]
    refine (Reader.bind_of_eq_some (Reader.exactly_append _ _)).trans ?_
    refine (Reader.bind_of_eq_some (title_escape urlPath (by rfl))).trans ?_
    refine (Reader.bind_of_eq_some (Reader.exactly_append _ _)).trans ?_
    refine (Reader.bind_of_eq_some (title_escape urlPath (by rfl))).trans ?_
    rw [if_pos rfl]
    refine (Reader.bind_of_eq_some (Reader.exactly_append _ _)).trans ?_
    refine (Reader.bind_of_eq_some lines).trans ?_
    exact Reader.bind_of_eq_some (Reader.exactly_append _ _)
  rw [List.append_nil] at whole
  rw [read?, Reader.all?, whole]

/-! ## The entries of a directory -/

/-- What a line has to say of an entry whose name is this text. -/
def lineOf (fs : FileSystem) (directory : Bytes) : List Char × Entry → Line
  | (name, e) =>
      if e.node.isDirectory ||
          e.node.isLink && fs.leadsToDirectory (Path.push directory (Utf8.encode name)) then
        { link := name ++ ['/'], text := name ++ ['/'] }
      else if e.node.isLink then { link := name, text := name ++ ['@'] }
      else { link := name, text := name }

/-- The name of an entry in lower case. -/
def lowerName (x : List Char × Entry) : List Char := Lowercase.lowerFrom [] x.1

/-- The entries in the order of their names in lower case. -/
def inOrder (entries : List (List Char × Entry)) : List (List Char × Entry) :=
  entries.mergeSort fun x y => before (lowerName x) (lowerName y)

/-- The item of an entry whose name is this text. -/
def itemAt (fs : FileSystem) (directory : Bytes) (x : List Char × Entry) : Item :=
  itemOf fs directory (Utf8.encode x.1) x.2

variable {fs fs' : FileSystem} {directory : Bytes} {entries : List (List Char × Entry)}

theorem line_itemAt (x : List Char × Entry) :
    (itemAt fs directory x).line = lineOf fs directory x := by
  obtain ⟨name, node, modified, locked⟩ := x
  have read := Utf8.decodeLossy_encode name
  cases node with
  | link target =>
      cases folder : fs.leadsToDirectory (Path.push directory (Utf8.encode name)) <;>
        simp [itemAt, itemOf, Item.line, Item.link, Item.text, lineOf, Node.isLink,
          Node.isDirectory, read, folder]
  | file | directory | socket | null =>
      simp [itemAt, itemOf, Item.line, Item.link, Item.text, lineOf, Node.isLink,
        Node.isDirectory, read]

theorem key_itemAt (x : List Char × Entry) : (itemAt fs directory x).key = lowerName x := by
  rw [itemAt, itemOf, Item.key, Utf8.decodeLossy_encode, lowerName]

theorem itemOf_congr (same : fs.SameTree fs') (name : Bytes) (e : Entry) :
    itemOf fs directory name e = itemOf fs' directory name e := by
  simp only [itemOf, same.leadsToDirectory_eq]

/-- The same tree has the same page, in whatever order it hands its entries out. -/
theorem render_congr {listing : List (Bytes × Entry)} (same : fs.SameTree fs')
    (listed : fs.list directory = .ok listing)
    (distinct : ((listing.map fun x => itemOf fs directory x.1 x.2).map Item.key).Nodup)
    (urlPath : List Char) : render fs' directory urlPath = render fs directory urlPath := by
  obtain ⟨listing', listed', perm⟩ := same.exists_list listed
  have items : sorted (listing'.map fun x => itemOf fs' directory x.1 x.2) =
      sorted (listing.map fun x => itemOf fs directory x.1 x.2) := by
    simp only [← itemOf_congr same]
    exact (sorted_eq_of_perm distinct (perm.map _)).symm
  rw [render, render, bind_of_eq_ok listed, bind_of_eq_ok listed', page, page, items]

theorem inOrder_perm (entries : List (List Char × Entry)) : (inOrder entries).Perm entries :=
  List.mergeSort_perm _ _

theorem pairwise_inOrder (entries : List (List Char × Entry)) :
    (inOrder entries).Pairwise fun x y => before (lowerName x) (lowerName y) := by
  refine List.pairwise_mergeSort ?_ ?_ _
  · exact fun _ _ _ => before_trans
  · exact fun x y => before_total (lowerName x) (lowerName y)

theorem pairwise_lt_inOrder (distinct : (entries.map lowerName).Nodup) :
    ((inOrder entries).map lowerName).Pairwise (· < ·) := by
  have different : ((inOrder entries).map lowerName).Nodup :=
    ((inOrder_perm entries).map lowerName).nodup_iff.2 distinct
  have ordered : ((inOrder entries).map lowerName).Pairwise fun s t => before s t := by
    rw [List.pairwise_map]
    exact pairwise_inOrder entries
  refine ordered.imp₂ ?_ different
  intro s t ahead other
  exact (before_iff.1 ahead).resolve_right other

theorem keys_itemAt (entries : List (List Char × Entry)) :
    (entries.map (itemAt fs directory)).map Item.key = entries.map lowerName := by
  rw [List.map_map]
  exact List.map_congr_left fun x _ => key_itemAt x

theorem sorted_map_itemAt (distinct : (entries.map lowerName).Nodup) :
    sorted (entries.map (itemAt fs directory)) = (inOrder entries).map (itemAt fs directory) := by
  apply sorted_eq_of_pairwise
  · rw [keys_itemAt]
    exact distinct
  · exact (inOrder_perm entries).map _
  · rw [List.pairwise_map]
    refine (pairwise_inOrder entries).imp ?_
    intro x y ahead
    rwa [key_itemAt, key_itemAt]

/-- The page of a directory whose names are texts. -/
theorem render_eq (listed : fs.list directory = .ok (entries.map fun x => (Utf8.encode x.1, x.2)))
    (distinct : (entries.map lowerName).Nodup) (urlPath : List Char) :
    render fs directory urlPath =
      .ok (pageOf urlPath ((inOrder entries).map (itemAt fs directory))) := by
  rw [render, bind_of_eq_ok listed, page, List.map_map, ← sorted_map_itemAt distinct]
  rfl

/-- **A listing reads back as its path and its entries**, in the order of their names in
lower case, and its markup tells no more than how many there are. -/
theorem render_reads_back
    (listed : fs.list directory = .ok (entries.map fun x => (Utf8.encode x.1, x.2)))
    (distinct : (entries.map lowerName).Nodup) (urlPath : List Char) :
    ∃ (page : List Char) (order : List (List Char × Entry)),
      (∀ fs', fs.SameTree fs' → render fs' directory urlPath = .ok page) ∧
      order.Perm entries ∧ (order.map lowerName).Pairwise (· < ·) ∧
      read? page = some (urlPath, order.map (lineOf fs directory)) ∧
      markup .text page = pageMarkup entries.length := by
  refine ⟨pageOf urlPath ((inOrder entries).map (itemAt fs directory)), inOrder entries,
    ?_, inOrder_perm entries, pairwise_lt_inOrder distinct, ?_, ?_⟩
  · intro fs' same
    have keys : ((entries.map fun x => (Utf8.encode x.1, x.2)).map fun x =>
        itemOf fs directory x.1 x.2).map Item.key = entries.map lowerName := by
      rw [List.map_map (l := entries)]
      exact keys_itemAt entries
    rw [render_congr same listed (keys ▸ distinct) urlPath]
    exact render_eq listed distinct urlPath
  · have lines : ((inOrder entries).map (itemAt fs directory)).map Item.line =
        (inOrder entries).map (lineOf fs directory) := by
      rw [List.map_map]
      exact List.map_congr_left fun x _ => line_itemAt x
    rw [read?_pageOf, lines]
  · rw [markup_pageOf, List.length_map, (inOrder_perm entries).length_eq]

namespace Example

/-- Entries of every kind, with names that look like markup. -/
def markupEntries : List (List Char × Entry) :=
  [("</a>".toList, { node := .file [] }), ("&lt;B".toList, { node := .directory }),
    ("a\"\n".toList, { node := .link (Bytes.ofString "&lt;B") }),
    ("'".toList, { node := .link (Bytes.ofString "gone") }),
    ("C".toList, { node := .link (Bytes.ofString "C") }), ("d@".toList, { node := .socket })]

/-- A directory `/d` of these entries. -/
def markupNames : FileSystem where
  entries := ([Bytes.ofString "d"], { node := .directory }) ::
    markupEntries.map fun x => ([Bytes.ofString "d", Utf8.encode x.1], x.2)
  distinct := by decide +kernel

end Example

/-- Names and a title that look like markup, for every kind of entry.  The directory can hand
its entries out in any order, and for each of them the page is the same. -/
theorem render_reads_back_markupNames :
    let title := "</title><script>&lt;".toList
    ∃ page lines, render Example.markupNames (Bytes.ofString "/d") title = .ok page ∧
      (∀ entries, (Example.markupEntries.map fun x => (Utf8.encode x.1, x.2)).Perm entries →
        ∃ fs, fs.list (Bytes.ofString "/d") = .ok entries ∧
          render fs (Bytes.ofString "/d") title = .ok page) ∧
      read? page = some (title, lines) ∧ markup .text page = pageMarkup 6 ∧
      lines.Perm
        [⟨"</a>".toList, "</a>".toList⟩, ⟨"&lt;B/".toList, "&lt;B/".toList⟩,
          ⟨"a\"\n/".toList, "a\"\n/".toList⟩, ⟨"'".toList, "'@".toList⟩,
          ⟨"C".toList, "C@".toList⟩, ⟨"d@".toList, "d@".toList⟩] := by
  intro title
  have listed : Example.markupNames.list (Bytes.ofString "/d") =
      .ok (Example.markupEntries.map fun x => (Utf8.encode x.1, x.2)) := by
    decide +kernel
  have distinct : (Example.markupEntries.map lowerName).Nodup := by decide +kernel
  obtain ⟨page, order, rendered, perm, -, read, marks⟩ := render_reads_back listed distinct title
  refine ⟨page, _, rendered _ (.refl _), ?_, read, marks, ?_⟩
  · intro entries perm
    obtain ⟨fs, same, handedOut⟩ := FileSystem.SameTree.exists_of_perm listed perm
    exact ⟨fs, handedOut, rendered fs same⟩
  have lines : Example.markupEntries.map (lineOf Example.markupNames (Bytes.ofString "/d")) =
      [⟨"</a>".toList, "</a>".toList⟩, ⟨"&lt;B/".toList, "&lt;B/".toList⟩,
        ⟨"a\"\n/".toList, "a\"\n/".toList⟩, ⟨"'".toList, "'@".toList⟩,
        ⟨"C".toList, "C@".toList⟩, ⟨"d@".toList, "d@".toList⟩] := by
    decide +kernel
  exact lines ▸ perm.map _

end StaticPreview.Listing
