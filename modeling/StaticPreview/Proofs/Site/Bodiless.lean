/-
# StaticPreview.Proofs.Site.Bodiless -- which HEAD requests are answered without a body

An answer to HEAD ought to have no body, and the access log to say so (`Bodiless`).  The
builders of a success leave the body out when they are told to, a redirect and a current
copy have none, but the builder of a failure is not told: what a way of answering that
comes to nothing ends in is the same for HEAD as for GET (`response_of_comesToNothing`),
and all the others have no body (`body_of_not_comesToNothing`).

So the answer to a HEAD request has no body exactly when its status is not 404, and
otherwise the one text of that failure, whose length is what is written down.  On its way
out every body is left out, so this is seen in the log alone: `bodiless_iff`.
-/
import StaticPreview.Proofs.Site.Answered
import StaticPreview.Proofs.Site.Revalidation
import StaticPreview.Wire.Message

namespace StaticPreview

open Time

/-- The text of the one failure. -/
theorem Reply.body_notFound : notFound.response.body = Bytes.ofString "404 Not Found" := by
  decide +kernel

/-- On its way to a client that asked for no body a response loses its own. -/
theorem Wire.ofResponse_head {r : Request} (head : r.method = .head) (response : Response)
    (date : String) :
    ofResponse r response date = ofResponse r { response with body := [] } date := by
  have noLength : takesLength r.method response.status = false := by
    rw [head]
    rfl
  simp only [ofResponse, noLength, Bool.and_false, Bool.false_eq_true, if_false, if_pos head]

namespace Site

variable {site : Site} {fs : FileSystem} {f : Fetch} {r : Request} {t : Timing} {reply : Reply}
  {target : List Char}

/-! ## Ways that come to nothing -/

/-- A way of answering that has nothing to give. -/
inductive Route.ComesToNothing (fs : FileSystem) (f : Fetch) (way : Route) : Prop where
  /-- It says no more than that there is no such file. -/
  | refused (absent : way.refused = true)
  /-- It ends in a file that cannot be opened, and of which no copy is current. -/
  | unopened {p : Bytes} {e : Entry} {refusal : IoError} (file : way.file? = some (p, e))
      (stale : f.conditions.current e.modified = .ok false) (closed : e.content = .error refusal)
  /-- It ends in a directory that cannot be listed. -/
  | unlisted {directory : Bytes} {title : List Char} {refusal : IoError}
      (listing : way = .listing directory title)
      (closed : Listing.render fs directory title = .error refusal)

/-- What comes to nothing is answered with the same failure, whatever the method. -/
theorem response_of_comesToNothing (nothing : (site.route fs target).ComesToNothing fs f)
    (h : (site.route fs target).reply fs f = .ok reply) :
    reply.response = Reply.notFound.response := by
  cases nothing with
  | refused absent => exact response_of_refused absent h
  | unopened file stale closed =>
      rw [reply_of_file? file] at h
      obtain ⟨date, -, ⟨current, -⟩ | ⟨-, ⟨content, opened, -⟩ | ⟨refusal, -, rfl⟩⟩⟩ :=
        serveFile_cases (stat_of_file? file).1 h
      · rw [stale] at current
        cases current
      · rw [closed] at opened
        cases opened
      · exact response_notFoundBecause _
  | unlisted listing closed =>
      rw [listing] at h
      cases h
      rw [listingReply, closed]
      exact response_notFoundBecause _

/-- A builder that is given no body gives none, and no failure that it is not asked for. -/
theorem body_ofBuild (label : String) {status : Nat} (other : status ≠ 404)
    (fields : List (String × String)) :
    (Reply.ofBuild label (Response.build status fields [])).response.body = [] ∧
      (Reply.ofBuild label (Response.build status fields [])).response.status ≠ 404 := by
  rcases Reply.ofBuild_cases label status fields [] with ⟨fs, -, built⟩ | fallback
  · rw [built]
    exact ⟨rfl, other⟩
  · rw [fallback]
    exact ⟨rfl, by decide⟩

/-- **What does not come to nothing is answered to HEAD without a body**, and is no failure. -/
theorem body_of_not_comesToNothing (head : f.isHead = true)
    (something : ¬ (site.route fs target).ComesToNothing fs f)
    (h : (site.route fs target).reply fs f = .ok reply) :
    reply.response.body = [] ∧ reply.response.status ≠ 404 := by
  cases file : (site.route fs target).file? with
  | some found =>
      obtain ⟨p, e⟩ := found
      rw [reply_of_file? file] at h
      obtain ⟨date, -, ⟨-, rfl⟩ | ⟨stale, ⟨content, -, rfl⟩ | ⟨refusal, closed, -⟩⟩⟩ :=
        serveFile_cases (stat_of_file? file).1 h
      · exact body_ofBuild "304" (by decide) _
      · rw [head]
        exact body_ofBuild "200" (by decide) _
      · exact absurd (.unopened file stale closed) something
  | none =>
      cases way : site.route fs target with
      | file | index =>
          rw [way] at file
          cases file
      | missing | outside | withheld =>
          rw [way] at something
          exact absurd (.refused rfl) something
      | redirect =>
          rw [way] at h
          cases h
          exact body_ofBuild "301" (by decide) _
      | listing directory title =>
          rw [way] at something h
          cases h
          unfold listingReply
          cases listed : Listing.render fs directory title with
          | error refusal => exact absurd (.unlisted rfl listed) something
          | ok page =>
              rw [head]
              exact body_ofBuild "HTML" (by decide) _

/-! ## Answers without a body -/

/-- An answer without a body, of which the access log says that it had none. -/
structure Bodiless (site : Site) (r : Request) (t : Timing) (x : Exchange) : Prop where
  empty : x.response.body = []
  logged : ∀ line ∈ x.journal.access,
    line = ({ accessEntry r x.response t with bodyBytes := 0 } : AccessEntry).line
      site.settings.logging.accessLogFormat

/-- The line of a response without a body says so. -/
theorem bodiless_exchangeOf (empty : reply.response.body = []) :
    site.Bodiless r t (site.exchangeOf r t reply) := by
  refine ⟨empty, ?_⟩
  intro line member
  have entry : accessEntry r reply.withPreview.response t =
      { accessEntry r reply.withPreview.response t with
        bodyBytes := reply.response.body.length } := rfl
  change line ∈ site.accessLines r reply.withPreview.response t at member
  unfold accessLines at member
  split at member
  · rw [List.mem_singleton.1 member, entry, empty]
    rfl
  · cases member

/-- A request for what there is nothing of. -/
def AsksNothing (site : Site) (fs : FileSystem) (r : Request) : Prop :=
  site.IsFetch r ∧ (site.route fs r.target).ComesToNothing fs (fetchOf r)

/-- **HEAD is answered with the failure, or without a body and with no failure.** -/
theorem response_of_head (head : r.method = .head) (plain : site.plainReply fs r = .ok reply) :
    site.AsksNothing fs r ∧ reply.response = Reply.notFound.response ∨
      ¬ site.AsksNothing fs r ∧ reply.response.body = [] ∧ reply.response.status ≠ 404 := by
  by_cases fetch : site.IsFetch r
  · rw [plainReply_of_isFetch fetch] at plain
    by_cases nothing : (site.route fs r.target).ComesToNothing fs (fetchOf r)
    · exact Or.inl ⟨⟨fetch, nothing⟩, response_of_comesToNothing nothing plain⟩
    · have isHead : (fetchOf r).isHead = true := decide_eq_true head
      exact Or.inr ⟨fun asked => nothing asked.2, body_of_not_comesToNothing isHead nothing plain⟩
  · have probe : site.settings.isProbe r.target = true := by
      rw [← Bool.not_eq_false]
      exact fun noProbe => fetch ⟨Or.inr head, noProbe⟩
    rw [plainReply, if_pos probe] at plain
    cases plain
    exact Or.inr ⟨fun asked => fetch asked.1, rfl, by decide⟩

/-- **An answer to HEAD has no body, and is written down without one, exactly when there is
something to answer with.**  Otherwise its status is 404 and its body the text of that
failure, though no client gets to see it: what goes out is what would go out without it. -/
theorem bodiless_iff (site : Site) (fs : FileSystem) (t : Timing) (head : r.method = .head) :
    match site.handle fs r t with
    | .ok x =>
        (site.Bodiless r t x ↔ ¬ site.AsksNothing fs r) ∧
          (site.AsksNothing fs r ↔ x.response.status = 404) ∧
          (site.AsksNothing fs r → x.response.body = Bytes.ofString "404 Not Found") ∧
          ∀ date, Wire.ofResponse r x.response date =
            Wire.ofResponse r { x.response with body := [] } date
    | .error _ => site.AsksUndated fs r := by
  cases handled : site.handle fs r t with
  | error outside =>
      by_contra dated
      obtain ⟨x, answered⟩ := exists_handle_iff.2 dated
      rw [handled] at answered
      cases answered
  | ok x =>
      obtain ⟨reply, plain, rfl⟩ := exists_reply_of_handle handled
      have wire := Wire.ofResponse_head head (site.exchangeOf r t reply).response
      rcases response_of_head head plain with ⟨nothing, failure⟩ | ⟨something, empty, success⟩
      · have body : (site.exchangeOf r t reply).response.body = Bytes.ofString "404 Not Found" :=
          (congrArg Response.body failure).trans Reply.body_notFound
        have status : (site.exchangeOf r t reply).response.status = 404 :=
          (congrArg Response.status failure).trans Reply.status_notFound
        refine ⟨iff_of_false ?_ (not_not_intro nothing), iff_of_true nothing status,
          fun _ => body, wire⟩
        intro bodiless
        rw [bodiless.empty] at body
        exact absurd body (by decide)
      · exact ⟨iff_of_true (bodiless_exchangeOf empty) something, iff_of_false something success,
          fun nothing => absurd nothing something, wire⟩

/-- A file is answered to HEAD with its length, without its bytes, and written down so. -/
theorem bodiless_of_file :
    ∃ x, Example.atTop.handle (Example.oneFile "new" (.ofSeconds 0))
        (Example.request .head "/a.txt") Example.timing = .ok x ∧
      x.response.status = 200 ∧
      x.response.headers.values "content-length" = [Bytes.ofString "3"] ∧
      Example.atTop.Bodiless (Example.request .head "/a.txt") Example.timing x := by
  have answer : ((Example.atTop.handle (Example.oneFile "new" (.ofSeconds 0))
      (Example.request .head "/a.txt") Example.timing).toOption.map fun x =>
        (x.response.status, x.response.headers.values "content-length")) =
          some (200, [Bytes.ofString "3"]) := by
    decide +kernel
  obtain ⟨x, handled, told⟩ := exists_of_toOption_map answer
  obtain ⟨status, length⟩ := Prod.mk.inj told
  have both := bodiless_iff Example.atTop (Example.oneFile "new" (.ofSeconds 0))
    (r := Example.request .head "/a.txt") Example.timing rfl
  rw [handled] at both
  obtain ⟨bodiless, failed, -⟩ := both
  refine ⟨x, handled, status, length, bodiless.2 fun nothing => ?_⟩
  rw [failed, status] at nothing
  exact absurd nothing (by decide)

/-- **HEAD need not be answered without a body**: what is not there is answered with
thirteen bytes, and thirteen is what is written down. -/
theorem not_bodiless_of_nothing :
    ∃ x, Example.atTop.handle {} (Example.request .head "/nope") Example.timing = .ok x ∧
      x.response.body = Bytes.ofString "404 Not Found" ∧
      x.journal.access =
        ["127.0.0.1 - - [01/Jan/1970:00:00:00 +0000] \"HEAD /nope HTTP/1.1\" 404 13"] ∧
      ¬ Example.atTop.Bodiless (Example.request .head "/nope") Example.timing x := by
  have answer : ((Example.atTop.handle {} (Example.request .head "/nope")
      Example.timing).toOption.map fun x => (x.response.body, x.journal.access)) =
        some (Bytes.ofString "404 Not Found",
          ["127.0.0.1 - - [01/Jan/1970:00:00:00 +0000] \"HEAD /nope HTTP/1.1\" 404 13"]) := by
    decide +kernel
  obtain ⟨x, handled, told⟩ := exists_of_toOption_map answer
  obtain ⟨body, access⟩ := Prod.mk.inj told
  refine ⟨x, handled, body, access, ?_⟩
  intro bodiless
  rw [bodiless.empty] at body
  exact absurd body (by decide)

end Site

end StaticPreview
