/-
# StaticPreview.Proofs.Site.Head -- HEAD is answered like GET, but for the body

Whether the body is left out is asked in two places, for a page and for a file, and in
neither does it change anything else: the two replies are the same without their bodies
(`withoutBody_reply`), notices included, and there is one exactly when there is the other.
The lengths that the GET reply names are those of its own body (`measured_reply`), so the
HEAD answer names them too: `head_mirrors`.
-/
import StaticPreview.Proofs.Site.File

namespace StaticPreview

open Time

/-- A reply whose body is left out. -/
def Reply.withoutBody (r : Reply) : Reply :=
  { r with response := { r.response with body := [] } }

namespace Reply

theorem withoutBody_ofBuild (label : String) (status : Nat) (fields : List (String × String))
    (body body' : Bytes) :
    (ofBuild label (Response.build status fields body)).withoutBody =
      (ofBuild label (Response.build status fields body')).withoutBody := by
  unfold Response.build
  cases Response.fieldsOf fields <;> rfl

theorem withoutBody_html (content : String) (isHead isHead' : Bool) :
    (html content isHead).withoutBody = (html content isHead').withoutBody :=
  withoutBody_ofBuild _ _ _ _ _

theorem withoutBody_file (data : Bytes) (contentType : String) (date : Option String)
    (isHead isHead' : Bool) :
    (file data contentType date isHead).withoutBody =
      (file data contentType date isHead').withoutBody :=
  withoutBody_ofBuild _ _ _ _ _

end Reply

namespace Site

variable {fs : FileSystem} {f : Fetch} {reply : Reply}

/-! ## What the method changes -/

theorem withoutBody_serveFile (fs : FileSystem) (f : Fetch) (isHead : Bool) (p : Bytes)
    (e : Entry) :
    (serveFile fs { f with isHead } p e).map Reply.withoutBody =
      (serveFile fs f p e).map Reply.withoutBody := by
  unfold serveFile
  cases e.modified.httpDate with
  | error outside => rfl
  | ok date =>
      simp only [bind, Except.bind]
      cases f.conditions.current e.modified with
      | error outside => rfl
      | ok current =>
          cases current with
          | true => rfl
          | false =>
              cases fs.read p with
              | error refusal => rfl
              | ok content => exact congrArg Except.ok (Reply.withoutBody_file _ _ _ _ _)

theorem withoutBody_listingReply (fs : FileSystem) (directory : Bytes) (title : List Char)
    (isHead isHead' : Bool) :
    (listingReply fs directory title isHead).withoutBody =
      (listingReply fs directory title isHead').withoutBody := by
  unfold listingReply
  cases Listing.render fs directory title with
  | error refusal => rfl
  | ok page => exact Reply.withoutBody_html _ _ _

/-- **Apart from the body a reply does not depend on whether there is to be one.** -/
theorem withoutBody_reply (way : Route) (fs : FileSystem) (f : Fetch) (isHead : Bool) :
    (way.reply fs { f with isHead }).map Reply.withoutBody =
      (way.reply fs f).map Reply.withoutBody := by
  cases way with
  | missing | outside | redirect | withheld => rfl
  | file p e => exact withoutBody_serveFile fs f isHead p e
  | index p e => exact withoutBody_serveFile fs f isHead p e
  | listing directory title =>
      exact congrArg Except.ok (withoutBody_listingReply fs directory title _ _)

/-! ## What the lengths are -/

theorem measured_serveFile {p : Bytes} {e : Entry} (there : fs.stat p = .ok e)
    (body : f.isHead = false) (h : serveFile fs f p e = .ok reply) :
    reply.response.Measured := by
  obtain ⟨date, -, ⟨-, rfl⟩ | ⟨-, ⟨content, -, rfl⟩ | ⟨refusal, -, rfl⟩⟩⟩ := serveFile_cases there h
  · exact Reply.measured_notModified date
  · rw [body]
    exact Reply.measured_file _ _ _
  · rw [response_notFoundBecause]
    exact Reply.measured_notFound

theorem measured_listingReply (fs : FileSystem) (directory : Bytes) (title : List Char) :
    (listingReply fs directory title false).response.Measured := by
  unfold listingReply
  cases Listing.render fs directory title with
  | error refusal =>
      dsimp only
      rw [response_notFoundBecause]
      exact Reply.measured_notFound
  | ok page => exact Reply.measured_html _

/-- **A reply with its body names no other length than that of its body.** -/
theorem measured_reply {site : Site} {target : List Char} (body : f.isHead = false)
    (h : (site.route fs target).reply fs f = .ok reply) : reply.response.Measured := by
  have taken := taken_route site fs target
  cases way : site.route fs target with
  | missing | outside | withheld =>
      rw [way] at h
      rw [response_of_refused rfl h]
      exact Reply.measured_notFound
  | redirect =>
      rw [way] at h
      cases h
      exact Reply.measured_redirect _
  | file p e =>
      rw [way] at h taken
      obtain ⟨-, there, -⟩ := taken
      exact measured_serveFile there body h
  | index p e =>
      rw [way] at h taken
      obtain ⟨-, -, found⟩ := taken
      exact measured_serveFile (stat_of_indexFile? found).1 body h
  | listing directory title =>
      rw [way] at h
      obtain rfl := Except.ok.inj h
      rw [body]
      exact measured_listingReply fs directory title

/-! ## Whole requests -/

/-- Two answers that differ in their bodies at most, and name the length of the first. -/
structure Mirrors (get head : Exchange) : Prop where
  status : head.response.status = get.response.status
  headers : head.response.headers = get.response.headers
  errors : head.journal.errors = get.journal.errors
  lengths : ∀ value ∈ get.response.headers.values "content-length" ++
      head.response.headers.values "content-length",
    value = Bytes.ofString (numberText get.response.body.length)

theorem measured_withPreview (measured : reply.response.Measured) :
    reply.withPreview.response.Measured := by
  have other : "content-length" ∉ Headers.mandatedNames := by decide
  intro value member
  rw [Reply.headers_withPreview, Headers.values_withPreview _ other] at member
  exact measured value member

theorem mirrors_exchangeOf {site : Site} {get head : Request} (t t' : Timing) {other : Reply}
    (same : other.withoutBody = reply.withoutBody) (measured : reply.response.Measured) :
    Mirrors (site.exchangeOf get t reply) (site.exchangeOf head t' other) := by
  have status : other.response.status = reply.response.status :=
    congrArg (fun r => r.response.status) same
  have headers : other.response.headers = reply.response.headers :=
    congrArg (fun r => r.response.headers) same
  have notices : other.notices = reply.notices := congrArg (fun r => r.notices) same
  have fields : other.withPreview.response.headers = reply.withPreview.response.headers :=
    congrArg Headers.withPreview headers
  refine ⟨status, fields, ?_, ?_⟩
  · show other.notices.map Notice.line ++ [] = reply.notices.map Notice.line ++ []
    rw [notices]
  · intro value member
    change value ∈ reply.withPreview.response.headers.values "content-length" ++
      other.withPreview.response.headers.values "content-length" at member
    rw [fields, List.mem_append, or_self] at member
    exact measured_withPreview measured value member

theorem plainReply_head (site : Site) (fs : FileSystem) (r : Request) :
    (site.plainReply fs { r with method := .head }).map Reply.withoutBody =
        (site.plainReply fs { r with method := .get }).map Reply.withoutBody ∧
      ∀ reply, site.plainReply fs { r with method := .get } = .ok reply →
        reply.response.Measured := by
  cases probe : site.settings.isProbe r.target with
  | true =>
      have nothing (method : Method) :
          site.plainReply fs { r with method } = .ok Reply.noContent := by
        rw [plainReply, if_pos probe]
      rw [nothing, nothing]
      refine ⟨rfl, ?_⟩
      -- the answer to a probe names no length
      rintro reply ⟨⟩ value member
      cases member
  | false =>
      have get : site.plainReply fs { r with method := .get } =
          (site.route fs r.target).reply fs (Fetch.ofRequest r false) := by
        rw [plainReply, if_neg (by simp [probe])]
        exact serve_eq_reply site fs (Fetch.ofRequest r false)
      have head : site.plainReply fs { r with method := .head } =
          (site.route fs r.target).reply fs (Fetch.ofRequest r true) := by
        rw [plainReply, if_neg (by simp [probe])]
        exact serve_eq_reply site fs (Fetch.ofRequest r true)
      rw [get, head]
      refine ⟨?_, ?_⟩
      · exact withoutBody_reply _ fs (Fetch.ofRequest r false) true
      · intro reply served
        exact measured_reply rfl served

/-- **HEAD mirrors GET.**  The two requests are answered with the same status, the same
fields in the same order and the same notices, and every length that is named is that of
the body that GET gets; or neither is answered, for the same reason. -/
theorem head_mirrors (site : Site) (fs : FileSystem) (r : Request) (t t' : Timing) :
    match site.handle fs { r with method := .get } t,
        site.handle fs { r with method := .head } t' with
    | .ok get, .ok head => Mirrors get head
    | .error e, .error e' => e = e'
    | _, _ => False := by
  obtain ⟨same, measured⟩ := plainReply_head site fs r
  rw [handle_eq, handle_eq]
  cases get : site.plainReply fs { r with method := .get } with
  | error e =>
      rw [get] at same
      cases head : site.plainReply fs { r with method := .head } with
      | error e' =>
          rw [head] at same
          exact (Except.error.inj same).symm
      | ok reply =>
          rw [head] at same
          cases same
  | ok reply =>
      rw [get] at same
      cases head : site.plainReply fs { r with method := .head } with
      | error e' =>
          rw [head] at same
          cases same
      | ok other =>
          rw [head] at same
          exact mirrors_exchangeOf t t' (Except.ok.inj same) (measured reply get)

end Site

end StaticPreview
