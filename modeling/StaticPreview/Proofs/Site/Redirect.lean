/-
# StaticPreview.Proofs.Site.Redirect -- where a redirect leads

The one thing that is answered with 301 is a directory that was asked for without its
solidus (`redirect_of_status`), and the answer says to ask for the same target with the
solidus.  A client reads that as a reference (`Reference`): one solidus at its start and
it stays with the authority it has just asked, two and it goes to the authority that is
named behind them.

The reference begins as the target does (`exists_of_asksFolder`), and nothing is done
about the solidi at its start although they mean nothing when the directory is looked
for.  So a client stays exactly when the target does not begin with two of them:
`location_kind`.
-/
import StaticPreview.Proofs.Header.Preview
import StaticPreview.Proofs.Pieces
import StaticPreview.Proofs.Site.Route
import StaticPreview.Proofs.Text.Utf8

namespace StaticPreview

open StaticPreview.Text

/-- Where a reference leads, for the client that reads it. -/
inductive Reference where
  /-- Two solidi: to the authority that is named behind them. -/
  | network (authority : Bytes)
  /-- One solidus: to a path on the same authority. -/
  | absolutePath
  /-- Anything else. -/
  | other
  deriving DecidableEq, Repr

namespace Reference

/-- Whether a byte belongs to the name of an authority. -/
def isAuthorityByte (b : UInt8) : Bool := b ≠ Bytes.slash ∧ b ≠ 0x3F ∧ b ≠ 0x23

/-- Where a reference leads. -/
def ofBytes : Bytes → Reference
  | [] => .other
  | [b] => if b = Bytes.slash then .absolutePath else .other
  | b :: c :: rest =>
      if b ≠ Bytes.slash then .other
      else if c = Bytes.slash then .network (rest.takeWhile isAuthorityByte)
      else .absolutePath

/-- The same for a character. -/
def isAuthorityChar (c : Char) : Bool := c ≠ '/' ∧ c ≠ '?' ∧ c ≠ '#'

theorem takeWhile_encode (s : List Char) :
    (Utf8.encode s).takeWhile isAuthorityByte = Utf8.encode (s.takeWhile isAuthorityChar) := by
  induction s with
  | nil => rfl
  | cons c s ih =>
      have bytes : Utf8.encode (c :: s) = Utf8.encodeChar c ++ Utf8.encode s := rfl
      cases stays : isAuthorityChar c with
      | true =>
          have all : ∀ b ∈ Utf8.encodeChar c, isAuthorityByte b = true := by
            intro b member
            simp only [isAuthorityChar, decide_eq_true_eq] at stays
            simp only [isAuthorityByte, decide_eq_true_eq]
            refine ⟨?_, ?_, ?_⟩
            · rintro rfl
              exact stays.1 ((Utf8.mem_encodeChar_ascii (by decide) c).1 member)
            · rintro rfl
              exact stays.2.1 ((Utf8.mem_encodeChar_ascii (by decide) c).1 member)
            · rintro rfl
              exact stays.2.2 ((Utf8.mem_encodeChar_ascii (by decide) c).1 member)
          rw [bytes, List.takeWhile_append_of_pos all, ih, List.takeWhile_cons_of_pos stays]
          rfl
      | false =>
          have ends : c = '/' ∨ c = '?' ∨ c = '#' := by
            simp only [isAuthorityChar, decide_eq_false_iff_not] at stays
            by_cases slash : c = '/'
            · exact Or.inl slash
            · by_cases mark : c = '?'
              · exact Or.inr (Or.inl mark)
              · right
                right
                by_cases sign : c = '#'
                · exact sign
                · exact absurd ⟨slash, mark, sign⟩ stays
          rw [List.takeWhile_cons_of_neg (by simp [stays])]
          rcases ends with rfl | rfl | rfl <;> rfl

/-- **A reference that starts with a solidus stays where it is read, but for a second
one right behind**: then it leads to the authority that stands there, whatever follows
behind its end. -/
theorem ofBytes_encode (c : Char) (s : List Char) {tail : List Char}
    (ends : ∀ d ∈ tail.head?, isAuthorityChar d = false) :
    ofBytes (Utf8.encode ('/' :: c :: (s ++ tail))) =
      if c = '/' then .network (Utf8.encode (s.takeWhile isAuthorityChar)) else .absolutePath := by
  have behind : (s ++ tail).takeWhile isAuthorityChar = s.takeWhile isAuthorityChar :=
    Pieces.takeWhile_append_of_head? ends s
  by_cases second : c = '/'
  · subst second
    have bytes : Utf8.encode ('/' :: '/' :: (s ++ tail)) =
        Bytes.slash :: Bytes.slash :: Utf8.encode (s ++ tail) := rfl
    rw [bytes, if_pos rfl, ← behind, ← takeWhile_encode]
    rfl
  · have whole : Utf8.encode ('/' :: c :: (s ++ tail)) =
        Bytes.slash :: (Utf8.encodeChar c ++ Utf8.encode (s ++ tail)) := rfl
    rw [whole, if_neg second]
    cases first : Utf8.encodeChar c with
    | nil => exact absurd first (Utf8.encodeChar_ne_nil c)
    | cons b bytes =>
        have other : b ≠ Bytes.slash := by
          rintro rfl
          have member : Bytes.slash ∈ Utf8.encodeChar c := by
            rw [first]
            exact List.mem_cons_self
          exact second ((Utf8.mem_encodeChar_ascii (by decide) c).1 member)
        simp [ofBytes, other]

end Reference

namespace Site

open Time

variable {site : Site} {fs : FileSystem} {f : Fetch} {r : Request} {t : Timing} {x : Exchange}
  {reply : Reply} {target : List Char}

/-! ## What is redirected -/

/-- A redirect that could be built names one place. -/
theorem values_redirect {location : String}
    (moved : (Reply.redirect location).response.status = 301) :
    (Reply.redirect location).response.headers.values "location" = [Bytes.ofString location] := by
  have built : (Reply.redirect location).response.status ≠ 200 := by
    rw [moved]
    decide
  obtain ⟨fields, named, same⟩ := Reply.ofBuild_of_status_ne built
  have first : Response.fieldName "Location" = "location" := by decide
  have second : Response.fieldName "Content-Length" ≠ "location" := by decide
  rw [Reply.redirect, same, Response.eq_map_of_fieldsOf named]
  simp [Headers.values, first, second]

/-- **Only a directory that was asked for without its solidus is redirected.** -/
theorem route_of_status (served : (site.route fs target).reply fs f = .ok reply)
    (moved : reply.response.status = 301) : site.route fs target = .redirect := by
  have taken := taken_route site fs target
  cases way : site.route fs target with
  | redirect => rfl
  | missing | outside | withheld =>
      rw [way] at served
      rw [response_of_refused rfl served, Reply.status_notFound] at moved
      exact absurd moved (by decide)
  | file p e =>
      rw [way] at served taken
      obtain ⟨-, there, -⟩ := taken
      have status := status_serveFile there served
      rw [moved] at status
      exact absurd status (by decide)
  | index p e =>
      rw [way] at served taken
      obtain ⟨-, -, found⟩ := taken
      obtain ⟨there, -, -⟩ := stat_of_indexFile? found
      have status := status_serveFile there served
      rw [moved] at status
      exact absurd status (by decide)
  | listing p title =>
      rw [way] at served
      cases served
      have status := status_listingReply fs p title f.isHead
      rw [moved] at status
      exact absurd status (by decide)

/-- Nothing else than a request for a file or a directory is redirected. -/
theorem isFetch_of_status (plain : site.plainReply fs r = .ok reply)
    (moved : reply.response.status = 301) : site.IsFetch r := by
  by_cases fetch : site.IsFetch r
  · exact fetch
  · rcases status_of_not_isFetch fetch plain with status | status
    · exact absurd (moved.symm.trans status) (by decide)
    · exact absurd (moved.symm.trans status) (by decide)

/-- **An answer with 301 says to ask for the same directory with its solidus.** -/
theorem redirect_of_status (h : site.handle fs r t = .ok x) (moved : x.response.status = 301) :
    site.NamesFolder fs r.target ∧ site.asksFolder r.target = false ∧
      x.response.headers.values "location" = [Utf8.encode (withSolidus r.target)] := by
  obtain ⟨reply, plain, answer⟩ := exists_reply_of_handle h
  have fetch : site.IsFetch r := by
    rw [answer] at moved
    exact isFetch_of_status plain moved
  obtain ⟨isHead, reply, served, answer⟩ := exists_reply_of_isFetch h fetch
  rw [answer, Reply.status_withPreview] at moved
  have way : site.route fs r.target = .redirect := route_of_status served moved
  obtain ⟨folder, noSolidus⟩ := route_eq_iff.1 way
  refine ⟨folder, noSolidus, ?_⟩
  have other : "location" ∉ Headers.mandatedNames := by decide
  rw [way] at served
  cases served
  rw [answer, Reply.headers_withPreview, Headers.values_withPreview _ other,
    values_redirect moved, Bytes.ofString, String.toList_ofList]
  rfl

/-! ## Where it leads -/

/-- The path of a target, and what follows it. -/
theorem exists_eq_split_append (target : List Char) :
    ∃ tail, target = (Target.split target).1 ++ tail ∧
      ∀ c ∈ tail.head?, Reference.isAuthorityChar c = false := by
  obtain ⟨fragment, whole, sign⟩ := Pieces.exists_eq_cutAt_append '#' target
  obtain ⟨query, front, mark⟩ :=
    Pieces.exists_eq_cutAt_append '?' (Pieces.cutAt '#' target).1
  refine ⟨query ++ fragment, ?_, ?_⟩
  · rw [← List.append_assoc, Target.split, ← front]
    exact whole
  · intro c hc
    cases query with
    | nil =>
        rw [sign c hc]
        decide
    | cons d query =>
        rw [mark c hc]
        decide

/-- What is asked for with a solidus is the path, the solidus and the query. -/
theorem exists_withSolidus_eq (target : List Char) :
    ∃ tail, withSolidus target = (Target.split target).1 ++ '/' :: tail := by
  cases query : (Target.split target).2 with
  | none => exact ⟨[], by simp [withSolidus, Target.unsplit, query]⟩
  | some q => exact ⟨'?' :: q, by simp [withSolidus, Target.unsplit, query]⟩

/-- A path that starts with a solidus and does not end in one has something behind it. -/
theorem exists_path_of_asksFolder (origin : target.head? = some '/')
    (noSolidus : site.asksFolder target = false) :
    ∃ c s, (Target.split target).1 = '/' :: c :: s := by
  obtain ⟨rest, rfl⟩ := List.head?_eq_some_iff.1 origin
  have last : (Target.split ('/' :: rest)).1.getLast? ≠ some '/' := by
    simpa [asksFolder, Target.resolve] using noSolidus
  have head : ∃ path, (Target.split ('/' :: rest)).1 = '/' :: path := by
    simp [Target.split, Pieces.cutAt]
  obtain ⟨path, first⟩ := head
  rw [first] at last
  cases path with
  | nil => exact absurd rfl last
  | cons c s => exact ⟨c, s, first⟩

/-- **A redirect leads where its target would, and stays on the server exactly when the
target does not start with two solidi.**  Read as a reference, the place that a client
is sent to and the target that it asked for name the same authority, if they name one. -/
theorem location_stays_iff (h : site.handle fs r t = .ok x)
    (origin : r.target.head? = some '/') (moved : x.response.status = 301) :
    ∃ location, x.response.headers.values "location" = [location] ∧
      Reference.ofBytes location = Reference.ofBytes (Utf8.encode r.target) ∧
      (Reference.ofBytes location = .absolutePath ↔ ¬ ['/', '/'] <+: r.target) := by
  obtain ⟨-, noSolidus, named⟩ := redirect_of_status h moved
  obtain ⟨c, s, path⟩ := exists_path_of_asksFolder origin noSolidus
  obtain ⟨behind, whole, ends⟩ := exists_eq_split_append r.target
  obtain ⟨after, added⟩ := exists_withSolidus_eq r.target
  rw [path] at whole added
  have stop : ∀ d ∈ ('/' :: after).head?, Reference.isAuthorityChar d = false := by
    intro d member
    rw [← Option.some.inj member]
    decide
  have asked := Reference.ofBytes_encode c s ends
  have given := Reference.ofBytes_encode c s stop
  have second : ['/', '/'] <+: r.target ↔ c = '/' := by
    rw [whole]
    simp [eq_comm]
  refine ⟨_, named, ?_, ?_⟩
  · rw [added, whole]
    exact given.trans asked.symm
  · rw [second, added, List.cons_append, List.cons_append, given]
    by_cases slash : c = '/'
    · simp [slash]
    · simp [slash]

namespace Example

/-- A tree with one directory. -/
def oneFolder : FileSystem where
  entries := [([Bytes.ofString "d"], { node := .directory })]

end Example

/-- A directory that is asked for by its name is redirected within the server. -/
theorem location_of_folder :
    ∃ x location,
      Example.atTop.handle Example.oneFolder (Example.request .get "/d") Example.timing = .ok x ∧
        x.response.status = 301 ∧ x.response.headers.values "location" = [location] ∧
        Reference.ofBytes location = .absolutePath := by
  have answer : ((Example.atTop.handle Example.oneFolder (Example.request .get "/d")
      Example.timing).toOption.map fun x => x.response.status) = some 301 := by
    decide +kernel
  obtain ⟨x, handled, moved⟩ := exists_of_toOption_map answer
  obtain ⟨location, named, -, stays⟩ := location_stays_iff handled rfl moved
  exact ⟨x, location, handled, moved, named, stays.2 (by decide)⟩

/-- **A redirect need not stay on the server**: a target that steps back to the root
from a segment behind two solidi sends the client to the host that the segment names. -/
theorem location_of_two_solidi :
    ∃ x, Site.open {} Settings.standard = .ok Example.atTop ∧
      Example.atTop.handle {} (Example.request .get "//evil.example/..") Example.timing = .ok x ∧
      x.response.status = 301 ∧
      x.response.headers.values "location" = [Bytes.ofString "//evil.example/../"] ∧
      Reference.ofBytes (Bytes.ofString "//evil.example/../") =
        .network (Bytes.ofString "evil.example") := by
  have answer : ((Example.atTop.handle {} (Example.request .get "//evil.example/..")
      Example.timing).toOption.map fun x =>
        (x.response.status, x.response.headers.values "location")) =
      some (301, [Bytes.ofString "//evil.example/../"]) := by
    decide +kernel
  obtain ⟨x, handled, told⟩ := exists_of_toOption_map answer
  obtain ⟨moved, named⟩ := Prod.mk.inj told
  exact ⟨x, rfl, handled, moved, named, by decide⟩

end Site

end StaticPreview
