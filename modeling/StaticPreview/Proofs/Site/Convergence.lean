/-
# StaticPreview.Proofs.Site.Convergence -- a redirect is followed once

A directory that is asked for without its solidus is redirected to the target with the
solidus put behind its path (`split_withSolidus`).  The solidus is the only change: it
leaves the query as it is, and the path comes apart into the same names
(`names_withSolidus`), however the end of it is spelt, since an escaped solidus, a
segment that steps up and no path at all are all read before the names are placed.

So where a redirect leads is the same directory, asked for as one, and what is served
there is no redirect: `redirect_converges`.
-/
import StaticPreview.Proofs.Site.Redirect
import StaticPreview.Proofs.Target.Slash

namespace StaticPreview.Site

open StaticPreview.Text

variable {site : Site} {fs : FileSystem} {f : Fetch} {reply : Reply}

/-! ## The target with its solidus -/

theorem split_withSolidus (target : List Char) :
    Target.split (withSolidus target) =
      ((Target.split target).1 ++ ['/'], (Target.split target).2) := by
  have shape : withSolidus target =
      Target.unsplit ((Target.split target).1 ++ ['/']) (Target.split target).2 := rfl
  rw [shape]
  apply Target.split_unsplit
  · simp [Target.number_not_mem_path target]
  · simp [Target.mark_not_mem_path target]
  · intro query sent
    exact Target.number_not_mem_query sent

/-- **The solidus asks for the same names.** -/
theorem names_withSolidus (target : List Char) :
    Target.names (withSolidus target) = Target.names target := by
  have read := Target.Percent.decode_append_slash (Target.split target).1 []
  have nothing : Target.Percent.decode [] = [] := by decide
  rw [nothing] at read
  rw [Target.names, split_withSolidus, read, Target.settle_split_slash]
  rfl

theorem resolve_withSolidus (root : Bytes) (target : List Char) :
    (Target.resolve root (withSolidus target)).fsPath = (Target.resolve root target).fsPath ∧
      (Target.resolve root (withSolidus target)).trailingSlash = true := by
  refine ⟨?_, ?_⟩
  · rw [Target.resolve_fsPath, Target.resolve_fsPath, names_withSolidus]
  · simp [Target.resolve, split_withSolidus]

/-! ## What is served there -/

/-- What is asked for as a directory is not redirected. -/
theorem status_ne_of_asksFolder (asked : site.asksFolder f.target = true)
    (served : site.serve fs f = .ok reply) : reply.response.status ≠ 301 := by
  intro moved
  rw [serve_eq_reply] at served
  obtain ⟨-, noSolidus⟩ := route_eq_iff.1 (route_of_status served moved)
  rw [asked] at noSolidus
  cases noSolidus

/-- **A redirect leads to the same directory, with the same query, and to no other
redirect**, whatever the client says about the copy that it has. -/
theorem redirect_converges (served : site.serve fs f = .ok reply)
    (moved : reply.response.status = 301) :
    ∃ location, reply.response.headers.values "location" = [Utf8.encode location] ∧
      (∀ root, (Target.resolve root location).fsPath = (Target.resolve root f.target).fsPath ∧
        (Target.resolve root location).trailingSlash = true) ∧
      (Target.split location).2 = (Target.split f.target).2 ∧
      ∀ (next : Fetch) (answer : Reply), next.target = location →
        site.serve fs next = .ok answer → answer.response.status ≠ 301 := by
  refine ⟨withSolidus f.target, ?_, ?_, ?_, ?_⟩
  · have way : site.route fs f.target = .redirect := by
      rw [serve_eq_reply] at served
      exact route_of_status served moved
    rw [serve_eq_reply, way] at served
    cases served
    rw [values_redirect moved, Bytes.ofString, String.toList_ofList]
  · exact fun root => resolve_withSolidus root f.target
  · rw [split_withSolidus]
  · intro next answer same again
    have asked : site.asksFolder next.target = true := by
      rw [same]
      exact (resolve_withSolidus site.rootPath f.target).2
    exact status_ne_of_asksFolder asked again

/-- A target that ends in an escaped solidus behind a step up, and asks twice. -/
theorem redirect_converges_escaped :
    let f : Fetch := { target := "/x/..%2Fd%2f?a?b#c".toList }
    ∃ reply, Example.atTop.serve Example.oneFolder f = .ok reply ∧
      reply.response.status = 301 ∧
      ∃ location, reply.response.headers.values "location" = [Utf8.encode location] ∧
        (Target.resolve [Bytes.slash] location).fsPath = Bytes.ofString "/d" ∧
        (Target.split location).2 = some "a?b".toList := by
  intro f
  have answer : ((Example.atTop.serve Example.oneFolder f).toOption.map
      fun reply => reply.response.status) = some 301 := by
    decide +kernel
  obtain ⟨reply, served, moved⟩ := exists_of_toOption_map answer
  obtain ⟨location, named, resolved, query, -⟩ := redirect_converges served moved
  refine ⟨reply, served, moved, location, named, ?_, ?_⟩
  · rw [(resolved [Bytes.slash]).1]
    decide
  · rw [query]
    decide

end StaticPreview.Site
