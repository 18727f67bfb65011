/-
# StaticPreview.Proofs.Site.WellFormed -- no answer stands in for another

A builder that is refused a field gives an empty success without fields
(`Response.fallback`), and nothing that is sent shows that something else was meant.  So a
response is well formed when its status is one of those that are meant and it carries what
belongs to that status, each once (`Response.WellFormed`); the fallback is not.

Texts that are made here are visible and so are never refused.  The one text that comes
from outside is the place of a redirect, and that is made of the bytes of the target, which
may all stand in a value when it was read from a request (`isValueByte_withSolidus`).  So
every answer is well formed: `handle_wellFormed`.
-/
import StaticPreview.Proofs.Request.Accepted
import StaticPreview.Proofs.Site.Answered
import StaticPreview.Proofs.Site.Redirect

namespace StaticPreview

open StaticPreview.Text

namespace Response

/-- A name that stands once among the fields. -/
def HasOne (response : Response) (name : String) : Prop :=
  ∃ value, response.headers.values name = [value]

/-- A response with a status that is meant, and with what belongs to it. -/
structure WellFormed (response : Response) : Prop where
  status : response.status ∈ [200, 204, 301, 304, 404, 501]
  content : response.status = 200 → response.HasOne "content-type" ∧ response.HasOne "content-length"
  nothing : response.status = 204 → response.body = []
  moved : response.status = 301 → response.HasOne "location"
  current : response.status = 304 → response.body = [] ∧ response.HasOne "last-modified"

/-- The response that stands in for one that was refused is not well formed. -/
theorem not_wellFormed_fallback : ¬ fallback.WellFormed := by
  intro formed
  obtain ⟨⟨value, typed⟩, -⟩ := formed.content rfl
  cases typed

end Response

/-! ## Builders -/

namespace Reply

open Response

/-- **A redirect names its place when the bytes of that may stand in a value.** -/
theorem redirect_eq {location : String}
    (allowed : ∀ b ∈ Bytes.ofString location, Header.isValueByte b = true) :
    redirect location =
      { response :=
          { status := 301
            headers := ⟨[⟨"location", Bytes.ofString location⟩,
              ⟨"content-length", Bytes.ofString "0"⟩]⟩
            body := [] } } := by
  have place : Field.ofText "Location" location = .ok ⟨"location", Bytes.ofString location⟩ := by
    rw [Field.ofText_of_isValueByte (by decide) allowed]
    rfl
  have length : Field.ofText "Content-Length" "0" = .ok ⟨"content-length", Bytes.ofString "0"⟩ := by
    decide
  rw [redirect, Response.build, fieldsOf, bind_of_eq_ok place, fieldsOf, bind_of_eq_ok length]
  rfl

theorem html_eq (content : String) (isHead : Bool) :
    html content isHead =
      { response :=
          { status := 200
            headers := ⟨[⟨"content-type", Bytes.ofString "text/html; charset=utf-8"⟩,
              ⟨"content-length", Bytes.ofString (numberText (Bytes.ofString content).length)⟩]⟩
            body := if isHead then [] else Bytes.ofString content } } := by
  have sendable : ∀ text ∈ [("Content-Type", "text/html; charset=utf-8"),
      ("Content-Length", numberText (Bytes.ofString content).length)], Sendable text := by
    simp only [List.mem_cons, List.not_mem_nil, or_false]
    rintro text (rfl | rfl)
    · exact sendable_of_isName (by decide) (by decide)
    · exact sendable_of_isName (by decide) (isVisible_numberText _)
  have built := ofBuild_of_sendable "HTML" 200 sendable
    (if isHead then [] else Bytes.ofString content)
  simp only [List.map_cons, List.map_nil, textField, fieldName_contentType,
    fieldName_contentLength] at built
  exact built

theorem wellFormed_of_refusal {response : Response}
    (h : response.status = 404 ∨ response.status = 501) : response.WellFormed := by
  rcases h with status | status <;> constructor <;> simp [status]

theorem wellFormed_noContent : noContent.response.WellFormed := by
  constructor <;> simp [noContent]

theorem wellFormed_options : options.response.WellFormed := by
  have body : options.response.body = [] := by decide
  constructor <;> simp [status_options, body]

theorem wellFormed_redirect {location : String}
    (allowed : ∀ b ∈ Bytes.ofString location, Header.isValueByte b = true) :
    (redirect location).response.WellFormed := by
  rw [redirect_eq allowed]
  constructor <;> simp [HasOne, Headers.values]

theorem wellFormed_notModified {date : String} (dated : Header.isVisible date.toList = true) :
    (notModified date).response.WellFormed := by
  rw [notModified_eq dated]
  constructor <;> simp [HasOne, Headers.values]

theorem wellFormed_file (p data : Bytes) {date : String} (isHead : Bool)
    (dated : Header.isVisible date.toList = true) :
    (file data (MediaType.ofPath p) (some date) isHead).response.WellFormed := by
  rw [file_eq data isHead (isVisible_ofPath p) dated]
  constructor <;> simp [HasOne, Headers.values]

theorem wellFormed_html (content : String) (isHead : Bool) :
    (html content isHead).response.WellFormed := by
  rw [html_eq]
  constructor <;> simp [HasOne, Headers.values]

/-- The mandated fields stand beside what belongs to the status. -/
theorem wellFormed_withPreview {reply : Reply} (formed : reply.response.WellFormed) :
    reply.withPreview.response.WellFormed := by
  have kept {name : String} (other : name ∉ Headers.mandatedNames)
      (one : reply.response.HasOne name) : reply.withPreview.response.HasOne name := by
    obtain ⟨value, stands⟩ := one
    exact ⟨value, (Headers.values_withPreview _ other).trans stands⟩
  constructor
  · exact formed.status
  · intro status
    obtain ⟨type, length⟩ := formed.content status
    exact ⟨kept (by decide) type, kept (by decide) length⟩
  · exact formed.nothing
  · intro status
    exact kept (by decide) (formed.moved status)
  · intro status
    obtain ⟨body, date⟩ := formed.current status
    exact ⟨body, kept (by decide) date⟩

end Reply

namespace Site

open Time

variable {site : Site} {fs : FileSystem} {f : Fetch} {r : Request} {t : Timing} {reply : Reply}
  {target : List Char} {p : Bytes} {e : Entry} {way : Route}

/-! ## The place of a redirect -/

/-- A target with its solidus has no other bytes than the target and the solidus. -/
theorem mem_encode_withSolidus {b : UInt8} (sign : '#' ∉ target)
    (h : b ∈ Utf8.encode (withSolidus target)) : b ∈ Utf8.encode target ∨ b = Bytes.slash := by
  have whole := Target.unsplit_split sign
  have solidus : Utf8.encode ['/'] = [Bytes.slash] := rfl
  rw [withSolidus] at h
  cases query : (Target.split target).2 with
  | none =>
      rw [query, Target.unsplit] at whole
      simp only [query, Target.unsplit, Utf8.encode_append, solidus, List.mem_append,
        List.mem_singleton, whole] at h
      exact h
  | some q =>
      rw [query, Target.unsplit] at whole
      simp only [query, Target.unsplit, Utf8.encode_append, solidus, List.mem_append,
        List.mem_singleton] at h
      rw [← whole, Utf8.encode_append, List.mem_append]
      rcases h with (path | slash) | rest
      · exact Or.inl (Or.inl path)
      · exact Or.inr slash
      · exact Or.inl (Or.inr rest)

/-- **The place that a redirect names may stand in a field.** -/
theorem isValueByte_withSolidus (accepted : r.Accepted) :
    ∀ b ∈ Bytes.ofString (String.ofList (withSolidus r.target)), Header.isValueByte b = true := by
  intro b member
  rw [Bytes.ofString, String.toList_ofList] at member
  have sign : '#' ∉ r.target := fun there => (accepted.of_mem_target there).2 rfl
  rcases mem_encode_withSolidus sign member with asked | rfl
  · exact accepted.isValueByte b asked
  · decide

/-! ## Answers -/

theorem wellFormed_serveFile (there : fs.stat p = .ok e) (h : serveFile fs f p e = .ok reply) :
    reply.response.WellFormed := by
  obtain ⟨date, dated, ⟨-, rfl⟩ | ⟨-, ⟨content, -, rfl⟩ | ⟨x, -, rfl⟩⟩⟩ := serveFile_cases there h
  · exact Reply.wellFormed_notModified (isVisible_of_httpDate dated)
  · exact Reply.wellFormed_file p content f.isHead (isVisible_of_httpDate dated)
  · rw [response_notFoundBecause]
    exact Reply.wellFormed_of_refusal (Or.inl Reply.status_notFound)

theorem wellFormed_listingReply (fs : FileSystem) (directory : Bytes) (title : List Char)
    (isHead : Bool) : (listingReply fs directory title isHead).response.WellFormed := by
  unfold listingReply
  split
  · exact Reply.wellFormed_html _ _
  · rw [response_notFoundBecause]
    exact Reply.wellFormed_of_refusal (Or.inl Reply.status_notFound)

/-- Each way in which a target is answered gives a well formed response, which is never one
that says nothing. -/
theorem wellFormed_route
    (place : ∀ b ∈ Bytes.ofString (String.ofList (withSolidus f.target)),
      Header.isValueByte b = true)
    (h : (site.route fs f.target).reply fs f = .ok reply) :
    reply.response.WellFormed ∧ reply.response.status ≠ 204 := by
  cases way : site.route fs f.target with
  | missing | outside | withheld =>
      rw [way] at h
      rw [response_of_refused rfl h]
      have absent := Reply.status_notFound
      exact ⟨Reply.wellFormed_of_refusal (Or.inl absent), by omega⟩
  | redirect =>
      rw [way] at h
      cases h
      refine ⟨Reply.wellFormed_redirect place, ?_⟩
      rw [Reply.redirect_eq place]
      exact (by decide : 301 ≠ 204)
  | file p e | index p e =>
      have file : (site.route fs f.target).file? = some (p, e) := by
        rw [way]
        rfl
      have there := (stat_of_file? file).1
      rw [reply_of_file? file] at h
      have status := status_serveFile there h
      exact ⟨wellFormed_serveFile there h, by omega⟩
  | listing directory title =>
      rw [way] at h
      cases h
      have status := status_listingReply fs directory title f.isHead
      exact ⟨wellFormed_listingReply fs directory title f.isHead, by omega⟩

/-- An answer that is well formed, and in its place: content only for GET and HEAD, nothing
only for probes and OPTIONS, and a redirect wherever a directory is asked for without its
solidus. -/
structure Proper (site : Site) (fs : FileSystem) (r : Request) (response : Response) : Prop where
  formed : response.WellFormed
  content : response.status = 200 → r.method = .get ∨ r.method = .head
  nothing : response.status = 204 → site.settings.isProbe r.target = true ∨ r.method = .options
  moved : site.IsFetch r → site.NamesFolder fs r.target → site.asksFolder r.target = false →
    response.status = 301

theorem proper_of_isFetch (accepted : r.Accepted) (fetch : site.IsFetch r)
    (plain : site.plainReply fs r = .ok reply) : site.Proper fs r reply.response := by
  have place := isValueByte_withSolidus accepted
  rw [plainReply_of_isFetch fetch] at plain
  obtain ⟨formed, something⟩ := wellFormed_route (f := fetchOf r) place plain
  refine ⟨formed, fun _ => fetch.1, fun status => absurd status something, ?_⟩
  intro _ folder noSolidus
  have way : site.route fs r.target = .redirect := route_eq_iff.2 ⟨folder, noSolidus⟩
  rw [way] at plain
  cases plain
  show (Reply.redirect (String.ofList (withSolidus r.target))).response.status = 301
  rw [Reply.redirect_eq place]

theorem proper_of_not_isFetch (other : ¬ site.IsFetch r)
    (plain : site.plainReply fs r = .ok reply) : site.Proper fs r reply.response := by
  have apart : site.IsFetch r → site.NamesFolder fs r.target → site.asksFolder r.target = false →
      reply.response.status = 301 := fun fetch => absurd fetch other
  rcases response_of_not_isFetch other plain with ⟨probe, same⟩ | ⟨method, same⟩ | same
  · rw [same] at apart ⊢
    exact ⟨Reply.wellFormed_noContent, fun status => (by cases status), fun _ => Or.inl probe, apart⟩
  · rw [same] at apart ⊢
    refine ⟨Reply.wellFormed_options, ?_, fun _ => Or.inr method, apart⟩
    intro status
    rw [Reply.status_options] at status
    cases status
  · rw [same] at apart ⊢
    have refusal := Reply.status_notImplemented
    refine ⟨Reply.wellFormed_of_refusal (Or.inr refusal), ?_, ?_, apart⟩
    · intro status
      rw [refusal] at status
      cases status
    · intro status
      rw [refusal] at status
      cases status

/-- **Every answer is well formed and in its place.**  Where the times of files have dates,
a request that was read from bytes is answered, under all settings, and no answer stands in
for one that could not be built. -/
theorem handle_wellFormed (site : Site) (fs : FileSystem) (r : Request) (t : Timing)
    (accepted : r.Accepted) (dated : fs.Dated) :
    ∃ x, site.handle fs r t = .ok x ∧ site.Proper fs r x.response := by
  have answerable : ¬ site.AsksUndated fs r := not_asksUndated dated
  obtain ⟨x, handled⟩ := (exists_handle_iff (t := t)).2 answerable
  obtain ⟨reply, plain, rfl⟩ := exists_reply_of_handle handled
  refine ⟨_, handled, ?_⟩
  have proper : site.Proper fs r reply.response := by
    by_cases fetch : site.IsFetch r
    · exact proper_of_isFetch accepted fetch plain
    · exact proper_of_not_isFetch fetch plain
  exact ⟨Reply.wellFormed_withPreview proper.formed, proper.content, proper.nothing, proper.moved⟩

/-- A redirect that names a place beyond ASCII is built like any other. -/
theorem handle_wellFormed_beyondAscii :
    Uri.target (Bytes.ofString "/d?ö") = .ok "/d?ö".toList ∧
    ∃ x, Example.atTop.handle Example.oneFolder (Example.request .get "/d?ö") Example.timing =
        .ok x ∧
      x.response.status = 301 ∧ x.response.HasOne "location" := by
  have read : Uri.target (Bytes.ofString "/d?ö") = .ok "/d?ö".toList := by decide +kernel
  have accepted : (Example.request .get "/d?ö").Accepted :=
    ⟨⟨Bytes.ofString "GET", by decide +kernel⟩, ⟨_, read⟩⟩
  have dated : Example.oneFolder.Dated := by
    intro entry member
    rw [List.mem_singleton.1 member]
    decide
  obtain ⟨x, handled, proper⟩ := handle_wellFormed Example.atTop Example.oneFolder
    (Example.request .get "/d?ö") Example.timing accepted dated
  have fetch : Example.atTop.IsFetch (Example.request .get "/d?ö") := ⟨Or.inl rfl, by decide⟩
  have folder : Example.atTop.NamesFolder Example.oneFolder "/d?ö".toList :=
    ⟨by decide +kernel, by decide +kernel⟩
  have moved := proper.moved fetch folder (by decide +kernel)
  exact ⟨read, x, handled, moved, proper.formed.moved moved⟩

end Site

end StaticPreview
