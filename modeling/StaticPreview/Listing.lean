/-
# StaticPreview.Listing -- the page that lists a directory

A listing has one item per entry, in the order of the names in lower case.  An
item shows what its entry is: a directory, also one behind a link, ends in a
solidus, any other link in an at sign.  The link of an item leads to the entry
from a page whose own address ends in a solidus.

* `Item.link` and `Item.text`: what an item leads to and what it shows;
* `page`: the page of a title and its items;
* `render`: the page of a directory of a file system;
* `mem_sorted_iff`, `pairwise_sorted`: sorting keeps every item, adds none, and leaves
  them in order.
-/
import StaticPreview.FileSystem.Walk
import StaticPreview.Target.Percent
import StaticPreview.Text.Lowercase

namespace StaticPreview.Listing

open StaticPreview.Text

/-- What an item shows its entry to be. -/
inductive Kind where
  /-- A directory or a link to one. -/
  | directory
  /-- A link to anything else, or to nothing. -/
  | link
  /-- Everything else. -/
  | plain
  deriving DecidableEq, Repr

/-- One line of a listing. -/
structure Item where
  name : List Char
  kind : Kind
  deriving DecidableEq, Repr

namespace Item

/-- The address of the entry, seen from its directory, without escapes. -/
def link (i : Item) : List Char :=
  match i.kind with
  | .directory => i.name ++ ['/']
  | .link => i.name
  | .plain => i.name

/-- The text of the line. -/
def text (i : Item) : List Char :=
  match i.kind with
  | .directory => i.name ++ ['/']
  | .link => i.name ++ ['@']
  | .plain => i.name

/-- What the lines are sorted by. -/
def key (i : Item) : List Char := Lowercase.lowerFrom [] i.name

end Item

/-- One character of a text that stands in a page. -/
def escapeChar (c : Char) : List Char :=
  if c = '&' then ['&', 'a', 'm', 'p', ';']
  else if c = '<' then ['&', 'l', 't', ';']
  else if c = '>' then ['&', 'g', 't', ';']
  else if c = '"' then ['&', 'q', 'u', 'o', 't', ';']
  else if c = '\'' then ['&', '#', 'x', '2', '7', ';']
  else [c]

/-- A text as it stands in a page. -/
def escape (s : List Char) : List Char := s.flatMap escapeChar

/-- Whether a text may stand before another one: character by character, the shorter of
two that agree comes first. -/
def before : List Char → List Char → Bool
  | [], _ => true
  | _ :: _, [] => false
  | a :: r, b :: s => a.toNat < b.toNat || a == b && before r s

theorem before_total (s t : List Char) : (before s t || before t s) = true := by
  induction s generalizing t with
  | nil => simp [before]
  | cons a r ih =>
      cases t with
      | nil => simp [before]
      | cons b u =>
          rcases Nat.lt_trichotomy a.toNat b.toNat with h | h | h
          · simp [before, h]
          · obtain rfl : a = b := Char.toNat_inj.1 h
            simpa [before] using ih u
          · simp [before, h]

theorem before_trans {s t u : List Char} (hst : before s t = true) (htu : before t u = true) :
    before s u = true := by
  induction s generalizing t u with
  | nil => rfl
  | cons a r ih =>
      cases t with
      | nil => simp [before] at hst
      | cons b t =>
          cases u with
          | nil => simp [before] at htu
          | cons c u =>
              simp only [before, Bool.or_eq_true, Bool.and_eq_true, decide_eq_true_eq,
                beq_iff_eq] at *
              rcases hst with h | ⟨rfl, h⟩
              · rcases htu with h' | ⟨rfl, _⟩
                · exact Or.inl (Nat.lt_trans h h')
                · exact Or.inl h
              · rcases htu with h' | ⟨rfl, h'⟩
                · exact Or.inl h'
                · exact Or.inr ⟨rfl, ih h h'⟩

/-- The items in the order in which they are listed; equal keys keep their order. -/
def sorted (items : List Item) : List Item :=
  ((items.map fun i => (i.key, i)).mergeSort fun a b => before a.1 b.1).map Prod.snd

theorem mem_sorted_iff (items : List Item) (i : Item) : i ∈ sorted items ↔ i ∈ items := by
  simp [sorted, List.mem_mergeSort]

/-- **No item stands behind one that has to stand behind it.** -/
theorem pairwise_sorted (items : List Item) :
    (sorted items).Pairwise fun i j => before i.key j.key := by
  have hkey : ∀ x ∈ (items.map fun i => (i.key, i)).mergeSort fun a b => before a.1 b.1,
      x.1 = x.2.key := by
    intro x hx
    obtain ⟨i, _, rfl⟩ := List.mem_map.1 (List.mem_mergeSort.1 hx)
    rfl
  have order : ((items.map fun i => (i.key, i)).mergeSort fun a b => before a.1 b.1).Pairwise
      fun a b => before a.1 b.1 := by
    refine List.pairwise_mergeSort ?_ ?_ _
    · exact fun _ _ _ => before_trans
    · exact fun a b => before_total a.1 b.1
  rw [sorted, List.pairwise_map]
  refine order.imp_of_mem ?_
  intro x y hx hy h
  rwa [← hkey x hx, ← hkey y hy]

/-- What stands before the title in the head of a page. -/
def opening : List Char :=
  ("<!DOCTYPE HTML>\n<html lang=\"en\">\n<head>\n<meta charset=\"utf-8\">\n" ++
    "<meta name=\"viewport\" content=\"width=device-width, initial-scale=1\">\n<title>").toList

/-- The line of an item. -/
def itemLine (i : Item) : List Char :=
  "<li><a href=\"".toList ++ Target.Percent.encodePath i.link ++ "\">".toList ++
    escape i.text ++ "</a></li>\n".toList

/-- The page of a title and the items in their order. -/
def pageOf (urlPath : List Char) (items : List Item) : List Char :=
  let title := "Directory listing for ".toList ++ escape urlPath
  opening ++ title ++ "</title>\n</head>\n<body>\n<h1>".toList ++ title ++
    "</h1>\n<hr>\n<ul>\n".toList ++ items.flatMap itemLine ++
    "</ul>\n<hr>\n</body>\n</html>\n".toList

/-- The page of a title and some items, sorted. -/
def page (urlPath : List Char) (items : List Item) : List Char := pageOf urlPath (sorted items)

/-- The item of an entry of the directory that a path leads to. -/
def itemOf (fs : FileSystem) (directory name : Bytes) (e : Entry) : Item where
  name := Utf8.decodeLossy name
  kind :=
    if e.node.isLink then
      if fs.leadsToDirectory (Path.push directory name) then .directory else .link
    else if e.node.isDirectory then .directory
    else .plain

/-- The page that lists the directory a path leads to. -/
def render (fs : FileSystem) (directory : Bytes) (urlPath : List Char) :
    Except IoError (List Char) := do
  let entries ← fs.list directory
  .ok (page urlPath (entries.map fun (name, e) => itemOf fs directory name e))

end StaticPreview.Listing
