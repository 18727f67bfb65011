/-
# StaticPreview.Proofs.Site.Handle -- one answer to one request

A request is answered with a reply (`Site.plainReply`): nothing for a target that
tools ask for on their own, and what `Site.dispatch` gives for any other.  All that
`Site.handle` does with the reply is to put the mandated fields on its response and to
write down its notices and, where that is asked for, one line about the request
(`handle_eq`).  So whatever the reply was built from, and even when its builder failed,
the answer carries the mandated fields once each, and its status, its body and the
values of all other names are those of the reply: `handle_mandated`.
-/
import StaticPreview.Proofs.Header.Preview
import StaticPreview.Proofs.Outcome
import StaticPreview.Proofs.Response
import StaticPreview.Site

namespace StaticPreview.Site

open Time

/-- The reply to a request, before the mandated fields are put. -/
def plainReply (site : Site) (fs : FileSystem) (r : Request) : Except OutsideCalendar Reply :=
  if site.settings.isProbe r.target then .ok Reply.noContent else site.dispatch fs r

/-- The lines of the access log about a request and the response to it. -/
def accessLines (site : Site) (r : Request) (response : Response) (t : Timing) : List String :=
  if !site.settings.isProbe r.target && site.settings.logging.accessLog then
    [(accessEntry r response t).line site.settings.logging.accessLogFormat]
  else []

/-- What becomes of a reply. -/
def exchangeOf (site : Site) (r : Request) (t : Timing) (reply : Reply) : Exchange where
  response := reply.withPreview.response
  journal :=
    Journal.ofNotices reply.notices ++
      Journal.ofAccess (site.accessLines r reply.withPreview.response t)

theorem errors_exchangeOf (site : Site) (r : Request) (t : Timing) (reply : Reply) :
    (site.exchangeOf r t reply).journal.errors = reply.notices.map Notice.line :=
  List.append_nil _

/-- **An answer is its reply with the mandated fields, and what is written down of it.** -/
theorem handle_eq (site : Site) (fs : FileSystem) (r : Request) (t : Timing) :
    site.handle fs r t = (site.plainReply fs r).map (site.exchangeOf r t) := by
  unfold handle plainReply
  cases probe : site.settings.isProbe r.target with
  | true =>
      simp only [if_true, Except.map, exchangeOf, accessLines, probe, Bool.not_true,
        Bool.false_and, Bool.false_eq_true, if_false]
      rfl
  | false =>
      simp only [Bool.false_eq_true, if_false]
      cases site.dispatch fs r with
      | error e => rfl
      | ok reply =>
          simp only [bind, Except.bind, Except.map, exchangeOf, accessLines, probe,
            Bool.not_false, Bool.true_and, Reply.notices_withPreview]

/-- The reply behind an answer. -/
theorem exists_reply_of_handle {site : Site} {fs : FileSystem} {r : Request} {t : Timing}
    {x : Exchange} (h : site.handle fs r t = .ok x) :
    ∃ reply, site.plainReply fs r = .ok reply ∧ x = site.exchangeOf r t reply := by
  rw [handle_eq] at h
  cases hr : site.plainReply fs r with
  | error e => simp [hr, Except.map] at h
  | ok reply =>
      simp only [hr, Except.map, Except.ok.injEq] at h
      exact ⟨reply, rfl, h.symm⟩

/-- **Every answer carries the mandated fields once each, and is otherwise its reply.**
Putting them leaves one value of each of their names and the values of all others,
whatever a list of fields held before; so an answer has them whatever its reply was
built with, and there is no answer only when there was no reply. -/
theorem handle_mandated :
    (∀ hs : Headers, hs.withPreview.Mandated ∧
      ∀ name, name ∉ Headers.mandatedNames → hs.withPreview.values name = hs.values name) ∧
    ∀ (site : Site) (fs : FileSystem) (r : Request) (t : Timing),
      match site.plainReply fs r with
      | .error e => site.handle fs r t = .error e
      | .ok reply =>
          ∃ x, site.handle fs r t = .ok x ∧
            x.response.status = reply.response.status ∧
            x.response.body = reply.response.body ∧
            x.response.headers.Mandated ∧
            ∀ name, name ∉ Headers.mandatedNames →
              x.response.headers.values name = reply.response.headers.values name := by
  refine ⟨?_, ?_⟩
  · intro hs
    exact ⟨Headers.mandated_withPreview hs, fun _ => Headers.values_withPreview hs⟩
  · intro site fs r t
    have answer := handle_eq site fs r t
    cases hr : site.plainReply fs r with
    | error e =>
        rw [hr] at answer
        exact answer
    | ok reply =>
        rw [hr] at answer
        refine ⟨_, answer, rfl, rfl, ?_, ?_⟩
        · exact Headers.mandated_withPreview reply.response.headers
        · intro name other
          exact Headers.values_withPreview reply.response.headers other

namespace Example

/-- A request as a browser on the same machine makes it. -/
def request (method : Method) (target : String) : Request where
  method := method
  target := target.toList
  peer := { ip := .v4 127 0 0 1, port := 50000 }

/-- The start of 1970. -/
def timing : Timing where
  time := { instant := .ofSeconds 0 }

/-- A site at the top of the tree, under the settings that nothing was set in. -/
def atTop : Site where
  settings := Settings.standard
  root := []

end Example

/-- An answer to OPTIONS has the mandated fields beside its own. -/
theorem handle_mandated_options :
    ∃ x, Example.atTop.handle {} (Example.request .options "/") Example.timing = .ok x ∧
      x.response.status = 204 ∧
      x.response.headers.values "cache-control" =
        [Bytes.ofString "no-cache, no-store, must-revalidate"] ∧
      x.response.headers.values "pragma" = [Bytes.ofString "no-cache"] ∧
      x.response.headers.values "expires" = [Bytes.ofString "0"] ∧
      x.response.headers.values "access-control-allow-origin" = [Bytes.ofString "*"] ∧
      x.response.headers.values "access-control-allow-methods" =
        [Bytes.ofString "GET, POST, OPTIONS"] ∧
      x.response.headers.values "access-control-allow-headers" = [Bytes.ofString "*"] ∧
      x.response.headers.values "allow" = [Bytes.ofString "GET, HEAD, OPTIONS"] := by
  have plain : Example.atTop.plainReply {} (Example.request .options "/") = .ok Reply.options := rfl
  have answer := handle_mandated.2 Example.atTop {} (Example.request .options "/") Example.timing
  have allowed : Reply.options.response.headers.values "allow" =
      [Bytes.ofString "GET, HEAD, OPTIONS"] := by
    decide
  rw [plain] at answer
  obtain ⟨x, handled, status, -, mandated, others⟩ := answer
  refine ⟨x, handled, ?_, mandated.cacheControl, mandated.pragma, mandated.expires,
    mandated.allowOrigin, mandated.allowMethods, mandated.allowHeaders, ?_⟩
  · rw [status]
    exact Reply.status_options
  · rw [others "allow" (by decide)]
    exact allowed

end StaticPreview.Site
