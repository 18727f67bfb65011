/-
# StaticPreview.Proofs.Listing.Markup -- names and titles add no markup to a page

The markup of a page is its tags, without the values of their attributes and without the
text between them (`markup`).  It is told apart character by character, so the markup of
a page is that of its parts one behind the other, each read from the place at which the
parts before it end (`Marks.append`).

A text in a page holds nothing that begins a tag, and the address of a link nothing that
ends a value.  Whatever is listed, and under whatever title, the markup of the page is
therefore that of a page of as many items without names (`markup_pageOf`).
-/
import StaticPreview.Proofs.Listing.Escape
import StaticPreview.Proofs.Listing.Follow

namespace StaticPreview.Listing

/-- Where a reader of markup stands. -/
inductive Place where
  /-- Between two tags. -/
  | text
  /-- Inside a tag. -/
  | tag
  /-- Inside the value of an attribute, up to the quote that began it. -/
  | value (quote : Char)
  deriving DecidableEq, Repr

/-- Where a reader of markup stands after one more character. -/
def Place.next : Place → Char → Place
  | .text, c => if c = '<' then .tag else .text
  | .tag, c => if c = '>' then .text else if c = '"' ∨ c = '\'' then .value c else .tag
  | .value quote, c => if c = quote then .tag else .value quote

/-- The markup of a text read from a place: the characters of its tags, and no others. -/
def markup : Place → List Char → List Char
  | _, [] => []
  | p, c :: rest =>
      if p = .tag ∨ p.next c = .tag then c :: markup (p.next c) rest else markup (p.next c) rest

/-- A text leads from one place to another and has this markup. -/
structure Marks (p : Place) (s : List Char) (q : Place) (tags : List Char) : Prop where
  place : s.foldl Place.next p = q
  markup_eq : markup p s = tags

variable {p q r : Place} {s t tags more : List Char}

theorem markup_append (p : Place) (s t : List Char) :
    markup p (s ++ t) = markup p s ++ markup (s.foldl Place.next p) t := by
  induction s generalizing p with
  | nil => rfl
  | cons c s ih =>
      simp only [List.cons_append, markup, List.foldl_cons, ih]
      split <;> rfl

/-- **Markup is read one part behind the other.** -/
theorem Marks.append (first : Marks p s q tags) (second : Marks q t r more) :
    Marks p (s ++ t) r (tags ++ more) where
  place := by rw [List.foldl_append, first.place, second.place]
  markup_eq := by rw [markup_append, first.place, first.markup_eq, second.markup_eq]

theorem Marks.append_silent (first : Marks p s q tags) (second : Marks q t r []) :
    Marks p (s ++ t) r tags := by
  have both := first.append second
  rwa [List.append_nil] at both

theorem Marks.flatMap {β : Type} {write : β → List Char} (each : ∀ b, Marks p (write b) p tags)
    (bs : List β) : Marks p (bs.flatMap write) p (List.replicate bs.length tags).flatten := by
  induction bs with
  | nil => exact ⟨rfl, rfl⟩
  | cons b bs ih =>
      rw [List.flatMap_cons, List.length_cons, List.replicate_succ, List.flatten_cons]
      exact (each b).append ih

/-- A text without what ends its place has no markup and leads nowhere. -/
theorem Marks.of_stays (other : p ≠ .tag) (stays : ∀ c ∈ s, p.next c = p) : Marks p s p [] := by
  induction s with
  | nil => exact ⟨rfl, rfl⟩
  | cons c s ih =>
      have here : p.next c = p := stays c List.mem_cons_self
      have rest := ih fun d member => stays d (List.mem_cons_of_mem c member)
      constructor
      · rw [List.foldl_cons, here, rest.place]
      · rw [markup, here, if_neg (by simp [other]), rest.markup_eq]

/-! ## A listing -/

theorem marks_escape (s : List Char) : Marks .text (escape s) .text [] := by
  refine Marks.of_stays (by decide) ?_
  intro c member
  have other : c ≠ '<' := fun same => not_mem_escape s (same ▸ member)
  rw [Place.next, if_neg other]

theorem marks_href (i : Item) : Marks (.value '"') i.href (.value '"') [] := by
  refine Marks.of_stays (by decide) ?_
  intro c member
  have other : c ≠ '"' := by
    rintro rfl
    exact absurd (Target.Percent.isWritten_of_mem member) (by decide)
  rw [Place.next, if_neg other]

/-- The markup of a line. -/
def lineMarkup : List Char := "<li><a href=\"\"></a></li>".toList

theorem marks_itemLine (i : Item) : Marks .text (itemLine i) .text lineMarkup := by
  have before : Marks .text "<li><a href=\"".toList (.value '"') "<li><a href=\"".toList := by
    constructor <;> decide +kernel
  have between : Marks (.value '"') "\">".toList .text "\">".toList := by
    constructor <;> decide +kernel
  have behind : Marks .text "</a></li>\n".toList .text "</a></li>".toList := by
    constructor <;> decide +kernel
  have line := ((before.append_silent (marks_href i)).append between).append
    ((marks_escape i.text).append behind)
  rw [itemLine_eq]
  exact line

/-- The markup of a page of so many lines. -/
def pageMarkup (lines : Nat) : List Char :=
  "<!DOCTYPE HTML><html lang=\"\"><head><meta charset=\"\">".toList ++
    "<meta name=\"\" content=\"\"><title>".toList ++ "</title></head><body><h1>".toList ++
    "</h1><hr><ul>".toList ++ (List.replicate lines lineMarkup).flatten ++
    "</ul><hr></body></html>".toList

theorem marks_opening : Marks .text opening .text
    ("<!DOCTYPE HTML><html lang=\"\"><head><meta charset=\"\">".toList ++
      "<meta name=\"\" content=\"\"><title>".toList) := by
  have parts : opening =
      "<!DOCTYPE HTML>\n<html lang=\"en\">\n<head>\n<meta charset=\"utf-8\">\n".toList ++
        "<meta name=\"viewport\" content=\"width=device-width, initial-scale=1\">\n<title>".toList :=
        by
    unfold opening
    exact String.toList_append
  rw [parts]
  apply Marks.append (q := .text)
  · constructor <;> decide +kernel
  · constructor <;> decide +kernel

theorem marks_title (urlPath : List Char) :
    Marks .text ("Directory listing for ".toList ++ escape urlPath) .text [] := by
  have fixed : Marks .text "Directory listing for ".toList .text [] := by
    constructor <;> decide +kernel
  exact fixed.append (marks_escape urlPath)

theorem marks_pageOf (urlPath : List Char) (items : List Item) :
    Marks .text (pageOf urlPath items) .text (pageMarkup items.length) := by
  have between : Marks .text "</title>\n</head>\n<body>\n<h1>".toList .text
      "</title></head><body><h1>".toList := by
    constructor <;> decide +kernel
  have lists : Marks .text "</h1>\n<hr>\n<ul>\n".toList .text "</h1><hr><ul>".toList := by
    constructor <;> decide +kernel
  have closes : Marks .text "</ul>\n<hr>\n</body>\n</html>\n".toList .text
      "</ul><hr></body></html>".toList := by
    constructor <;> decide +kernel
  have head := (((marks_opening.append_silent (marks_title urlPath)).append between).append_silent
    (marks_title urlPath)).append lists
  exact (head.append (Marks.flatMap marks_itemLine items)).append closes

/-- **Whatever is listed under whatever title, the markup depends on the number of items
alone.** -/
theorem markup_pageOf (urlPath : List Char) (items : List Item) :
    markup .text (pageOf urlPath items) = pageMarkup items.length :=
  (marks_pageOf urlPath items).markup_eq

end StaticPreview.Listing
