/-
# StaticPreview.Proofs.Listing.Follow -- where the link of an item leads

A link is followed from the address of the page, which ends in a solidus: what the link
says goes behind the path (`follow`).  What is read of the two is the path as it was
read before and then the name, since neither the reading of escapes nor that of UTF-8
reaches across the solidus, however oddly the path is spelt.  So the link of an item
adds the name of the item to the names of the directory (`names_follow`), and a name
with a backslash adds nothing (`names_follow_backslash`).

The link ends in a solidus exactly when the item shows a directory, as it is written and
as it is read (`getLast?_follow`, `getLast?_decode_follow`).
-/
import Mathlib.Data.List.Basic
import StaticPreview.Listing
import StaticPreview.Proofs.Target.Slash

namespace StaticPreview.Listing

open StaticPreview.Text
open StaticPreview.Target (split names settle)

/-- The address of an item as the page gives it. -/
def Item.href (i : Item) : List Char := Target.Percent.encodePath i.link

theorem itemLine_eq (i : Item) :
    itemLine i = "<li><a href=\"".toList ++ i.href ++ "\">".toList ++
      (escape i.text ++ "</a></li>\n".toList) := by
  unfold itemLine Item.href
  rw [List.append_assoc _ (escape i.text)]

theorem href_infix_itemLine (i : Item) :
    "<li><a href=\"".toList ++ i.href ++ "\">".toList <:+: itemLine i := by
  have front : "<li><a href=\"".toList ++ i.href ++ "\">".toList <+: itemLine i := by
    rw [itemLine_eq]
    apply List.prefix_append
  exact front.isInfix

/-- The target that a reference behind the path of a page asks for. -/
def follow (target href : List Char) : List Char := (split target).1 ++ href

variable {target : List Char} {i : Item}

theorem split_follow (target : List Char) (i : Item) :
    split (follow target i.href) = (follow target i.href, none) := by
  have clean {c : Char} (other : Target.Percent.isWritten c = false) : c ∉ i.href := by
    intro member
    have written := Target.Percent.isWritten_of_mem member
    rw [other] at written
    cases written
  have whole : Target.unsplit (follow target i.href) none = follow target i.href := rfl
  conv => lhs; rw [← whole]
  apply Target.split_unsplit
  · simp [follow, Target.number_not_mem_path target, clean (c := '#') (by decide)]
  · simp [follow, Target.mark_not_mem_path target, clean (c := '?') (by decide)]
  · simp

/-! ## The names -/

/-- What is read of the path of a page and of a link behind it. -/
theorem decode_follow {front : List Char} (folder : (split target).1 = front ++ ['/'])
    (i : Item) :
    Target.Percent.decode (follow target i.href) =
      Target.Percent.decode front ++ '/' :: i.link := by
  rw [follow, folder, List.append_assoc, List.singleton_append,
    Target.Percent.decode_append_slash, Item.href, Target.Percent.decode_encodePath]

/-- The solidus behind the name of a directory adds no segment that counts. -/
theorem settle_split_link (front : List Char) (whole : '/' ∉ i.name) :
    settle (Pieces.split '/' (front ++ '/' :: i.link)) =
      settle (Pieces.split '/' front ++ [i.name]) := by
  have plain : settle (Pieces.split '/' (front ++ '/' :: i.name)) =
      settle (Pieces.split '/' front ++ [i.name]) := by
    rw [Pieces.split_append_cons, Pieces.split_of_not_mem whole]
  unfold Item.link
  cases i.kind with
  | directory =>
      have solidus : front ++ '/' :: (i.name ++ ['/']) = (front ++ '/' :: i.name) ++ ['/'] := by
        simp
      rw [solidus, Target.settle_split_slash, plain]
  | link => exact plain
  | plain => exact plain

theorem names_of_folder {front : List Char} (folder : (split target).1 = front ++ ['/']) :
    names target = (settle (Pieces.split '/' (Target.Percent.decode front))).map Utf8.encode := by
  have nothing : Target.Percent.decode [] = [] := by decide
  rw [names, folder, Target.Percent.decode_append_slash, nothing, Target.settle_split_slash]

/-- **A link adds its name to the names of its page.** -/
theorem names_follow (folder : (split target).1.getLast? = some '/')
    (entry : Target.isEntry i.name = true) (whole : '/' ∉ i.name) :
    names (follow target i.href) = names target ++ [Utf8.encode i.name] := by
  obtain ⟨front, shape⟩ := List.getLast?_eq_some_iff.1 folder
  rw [names, split_follow, decode_follow shape, settle_split_link _ whole,
    Target.settle_append_entry entry, List.map_append, names_of_folder shape]
  rfl

/-- A link with a backslash in its name leads to its own page. -/
theorem names_follow_backslash (folder : (split target).1.getLast? = some '/')
    (member : '\\' ∈ i.name) (whole : '/' ∉ i.name) :
    names (follow target i.href) = names target := by
  obtain ⟨front, shape⟩ := List.getLast?_eq_some_iff.1 folder
  rw [names, split_follow, decode_follow shape, settle_split_link _ whole,
    Target.settle_append_backslash member, names_of_folder shape]

/-! ## The solidus at the end -/

theorem getLast?_link (whole : '/' ∉ i.name) :
    i.link.getLast? = some '/' ↔ i.kind = .directory := by
  have named : i.name.getLast? ≠ some '/' := fun last => whole (List.mem_of_getLast? last)
  unfold Item.link
  cases i.kind with
  | directory => simp
  | link => simpa using named
  | plain => simpa using named

theorem link_ne_nil (filled : i.name ≠ []) : i.link ≠ [] := by
  unfold Item.link
  cases i.kind with
  | directory => simp
  | link => exact filled
  | plain => exact filled

/-- **As it is written, a link ends in a solidus for a directory and for nothing else.** -/
theorem getLast?_follow (filled : i.name ≠ []) (whole : '/' ∉ i.name) :
    (follow target i.href).getLast? = some '/' ↔ i.kind = .directory := by
  have written : i.href ≠ [] := Target.Percent.encodePath_ne_nil (link_ne_nil filled)
  have named : (Target.Percent.encodePath i.name).getLast? ≠ some '/' :=
    fun last => whole (Target.Percent.slash_mem_encodePath (List.mem_of_getLast? last))
  rw [follow, List.getLast?_append_of_ne_nil _ written]
  unfold Item.href Item.link
  cases i.kind with
  | directory =>
      have solidus : Target.Percent.encodePath ['/'] = ['/'] := by decide
      simp [solidus]
  | link => simpa using named
  | plain => simpa using named

/-- **As it is read, too.** -/
theorem getLast?_decode_follow (folder : (split target).1.getLast? = some '/')
    (filled : i.name ≠ []) (whole : '/' ∉ i.name) :
    (Target.Percent.decode (follow target i.href)).getLast? = some '/' ↔ i.kind = .directory := by
  obtain ⟨front, shape⟩ := List.getLast?_eq_some_iff.1 folder
  have behind : Target.Percent.decode front ++ '/' :: i.link =
      (Target.Percent.decode front ++ ['/']) ++ i.link := by
    simp
  rw [decode_follow shape, behind, List.getLast?_append_of_ne_nil _ (link_ne_nil filled),
    getLast?_link whole]

end StaticPreview.Listing
