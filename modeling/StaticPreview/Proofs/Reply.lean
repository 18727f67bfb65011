/-
# StaticPreview.Proofs.Reply -- what a builder gives when nothing is refused

Visible texts are not refused (`ofBuild_of_visible`).  A media type is visible and so is a
number, so a reply with a file has the status, the fields and the body that it was asked
for (`file_eq`), and so has the reply that a copy is current (`notModified_eq`).

Whatever was refused, a reply that names a length names that of the body
(`Response.Measured`), as long as the body was not left out.
-/
import StaticPreview.MediaType
import StaticPreview.Proofs.Freshness
import StaticPreview.Proofs.Response

namespace StaticPreview

open StaticPreview.Text

/-! ## Texts that are visible -/

theorem isVisible_numberText (n : Nat) : Header.isVisible (numberText n).toList = true := by
  rw [numberText, String.toList_ofList]
  exact Time.isVisible_of_isDigit fun _ => Decimal.isDigit_of_mem_digits

theorem mem_of_lookup_eq_some {table : List (String × String)} {key value : String}
    (h : table.lookup key = some value) : (key, value) ∈ table := by
  induction table with
  | nil => cases h
  | cons entry table ih =>
      obtain ⟨k, v⟩ := entry
      rw [List.lookup_cons] at h
      split at h
      · rename_i same
        obtain rfl : key = k := by simpa using same
        rw [Option.some.inj h]
        exact List.mem_cons_self
      · exact List.mem_cons_of_mem _ (ih h)

/-- **Every media type is visible.** -/
theorem isVisible_ofPath (p : Bytes) : Header.isVisible (MediaType.ofPath p).toList = true := by
  have known : ∀ entry ∈ MediaType.table, Header.isVisible entry.2.toList = true := by
    decide +kernel
  have unknown : Header.isVisible MediaType.octets.toList = true := by decide +kernel
  unfold MediaType.ofPath MediaType.ofExtension
  generalize (Path.extension? p).bind (fun e => Bytes.toString? (e.map Bytes.lowerAscii)) = extension
  cases extension with
  | none => exact unknown
  | some e =>
      rw [Option.bind_some]
      cases found : List.lookup e MediaType.table with
      | none => exact unknown
      | some value => exact known _ (mem_of_lookup_eq_some found)

/-! ## Builders that are not refused anything -/

namespace Response

/-- A text as the field that it is written as. -/
def textField (text : String × String) : Field :=
  { name := fieldName text.1, value := Bytes.ofString text.2 }

theorem fieldName_contentType : fieldName "Content-Type" = "content-type" := by decide

theorem fieldName_contentLength : fieldName "Content-Length" = "content-length" := by decide

theorem fieldName_lastModified : fieldName "Last-Modified" = "last-modified" := by decide

theorem fieldName_location : fieldName "Location" = "location" := by decide

/-- A name and a value that nothing refuses. -/
def Sendable (text : String × String) : Prop :=
  Header.isName (Bytes.ofString text.1) = true ∧ Header.isVisible text.2.toList = true

theorem sendable_of_isName {name value : String} (named : Header.isName (Bytes.ofString name) = true)
    (visible : Header.isVisible value.toList = true) : Sendable (name, value) := ⟨named, visible⟩

theorem fieldsOf_of_sendable {texts : List (String × String)}
    (sendable : ∀ text ∈ texts, Sendable text) :
    fieldsOf texts = .ok (texts.map textField) := by
  induction texts with
  | nil => rfl
  | cons text texts ih =>
      obtain ⟨named, visible⟩ := sendable text List.mem_cons_self
      have first : Field.ofText text.1 text.2 = .ok (textField text) :=
        Field.ofText_visible named visible
      have rest := ih fun other member => sendable other (List.mem_cons_of_mem _ member)
      rw [fieldsOf, bind_of_eq_ok first, bind_of_eq_ok rest, List.map_cons]

end Response

namespace Reply

open Response

/-- **Where nothing is refused the reply is the one that was asked for.** -/
theorem ofBuild_of_sendable (label : String) (status : Nat) {texts : List (String × String)}
    (sendable : ∀ text ∈ texts, Sendable text) (body : Bytes) :
    ofBuild label (Response.build status texts body) =
      { response := { status, headers := ⟨texts.map textField⟩, body } } := by
  rw [Response.build, bind_of_eq_ok (fieldsOf_of_sendable sendable)]
  rfl

/-- **A file is sent with its type, its length and its date.** -/
theorem file_eq (data : Bytes) {contentType date : String} (isHead : Bool)
    (typed : Header.isVisible contentType.toList = true)
    (dated : Header.isVisible date.toList = true) :
    file data contentType (some date) isHead =
      { response :=
          { status := 200
            headers := ⟨[⟨"content-type", Bytes.ofString contentType⟩,
              ⟨"content-length", Bytes.ofString (numberText data.length)⟩,
              ⟨"last-modified", Bytes.ofString date⟩]⟩
            body := if isHead then [] else data } } := by
  have sendable : ∀ text ∈ [("Content-Type", contentType),
      ("Content-Length", numberText data.length), ("Last-Modified", date)], Sendable text := by
    simp only [List.mem_cons, List.not_mem_nil, or_false]
    rintro text (rfl | rfl | rfl)
    · exact sendable_of_isName (by decide) typed
    · exact sendable_of_isName (by decide) (isVisible_numberText _)
    · exact sendable_of_isName (by decide) dated
  have built := ofBuild_of_sendable "200" 200 sendable (if isHead then [] else data)
  simp only [List.map_cons, List.map_nil, textField, fieldName_contentType,
    fieldName_contentLength, fieldName_lastModified] at built
  exact built

theorem notModified_eq {date : String} (dated : Header.isVisible date.toList = true) :
    notModified date =
      { response :=
          { status := 304, headers := ⟨[⟨"last-modified", Bytes.ofString date⟩]⟩, body := [] } } := by
  have sendable : ∀ text ∈ [("Last-Modified", date)], Sendable text := by
    intro text member
    rw [List.mem_singleton.1 member]
    exact sendable_of_isName (by decide) dated
  have built := ofBuild_of_sendable "304" 304 sendable []
  simp only [List.map_cons, List.map_nil, textField, fieldName_lastModified] at built
  exact built

end Reply

/-! ## Lengths that are named -/

/-- Each length that a response names is that of its body. -/
def Response.Measured (r : Response) : Prop :=
  ∀ value ∈ r.headers.values "content-length", value = Bytes.ofString (numberText r.body.length)

namespace Reply

open Response

theorem measured_ofBuild (label : String) (status : Nat) {texts : List (String × String)}
    {body : Bytes} (spare : Bytes := [])
    (measured : ∀ text ∈ texts, fieldName text.1 = "content-length" →
      text.2 = numberText body.length) :
    (ofBuild label (Response.build status texts body) spare).response.Measured := by
  rcases ofBuild_cases label status texts body spare with ⟨fields, named, built⟩ | fallback
  · rw [built, eq_map_of_fieldsOf named]
    intro value member
    obtain ⟨field, kept, rfl⟩ := List.mem_map.1 member
    obtain ⟨there, name⟩ := List.mem_filter.1 kept
    obtain ⟨text, written, rfl⟩ := List.mem_map.1 there
    exact congrArg Bytes.ofString (measured text written (eq_of_beq name))
  · rw [fallback]
    intro value member
    cases member

theorem measured_failure (status : Nat) (text : String) :
    (failure status text).response.Measured := by
  apply measured_ofBuild
  simp only [List.mem_cons, List.not_mem_nil, or_false]
  rintro text (rfl | rfl) name
  · exact absurd (fieldName_contentType.symm.trans name) (by decide)
  · rfl

theorem measured_notFound : notFound.response.Measured := measured_failure 404 "404 Not Found"

theorem measured_redirect (location : String) : (redirect location).response.Measured := by
  apply measured_ofBuild
  simp only [List.mem_cons, List.not_mem_nil, or_false]
  rintro text (rfl | rfl) name
  · exact absurd (fieldName_location.symm.trans name) (by decide)
  · show "0" = numberText 0
    decide +kernel

theorem measured_notModified (date : String) : (notModified date).response.Measured := by
  apply measured_ofBuild
  intro text member name
  rw [List.mem_singleton.1 member] at name
  exact absurd (fieldName_lastModified.symm.trans name) (by decide)

theorem measured_html (content : String) : (html content false).response.Measured := by
  apply measured_ofBuild
  simp only [List.mem_cons, List.not_mem_nil, or_false]
  rintro text (rfl | rfl) name
  · exact absurd (fieldName_contentType.symm.trans name) (by decide)
  · rfl

theorem measured_file (data : Bytes) (contentType : String) (date : Option String) :
    (file data contentType date false).response.Measured := by
  apply measured_ofBuild
  simp only [List.mem_append, List.mem_cons, List.not_mem_nil, or_false, List.mem_map]
  rintro text ((rfl | rfl) | ⟨d, -, rfl⟩) name
  · exact absurd (fieldName_contentType.symm.trans name) (by decide)
  · rfl
  · exact absurd (fieldName_lastModified.symm.trans name) (by decide)

end Reply

end StaticPreview
