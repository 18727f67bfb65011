/-
# StaticPreview.Proofs.Site.Probe -- requests that tools make on their own

A probe is recognised by its target alone, so what is answered to it can depend on
nothing else: `handle_of_isProbe` gives one exchange for all of them, in which nothing is
told and nothing is written down (`unnoticed`).

Apart from that the list of probes is not looked at.  So two sites that differ in it
answer every target alike that they both take for a probe or both do not
(`handle_withProbes`), and the order of the list, its repetitions and the empty text in
it make no difference to what is taken for one: `probes_unnoticed`.
-/
import StaticPreview.Proofs.Site.Handle

namespace StaticPreview

/-- Lists with the same texts in them, the empty one apart. -/
def Settings.SameProbes (probes probes' : List String) : Prop :=
  ∀ probe, probe ≠ "" → (probe ∈ probes ↔ probe ∈ probes')

/-- A target that holds one of the texts, and not only the empty one. -/
def Settings.Probes (probes : List String) (target : List Char) : Prop :=
  ∃ probe ∈ probes, probe ≠ "" ∧ probe.toList <:+: target

theorem Settings.probes_congr {probes probes' : List String} (same : SameProbes probes probes')
    (target : List Char) : Probes probes target ↔ Probes probes' target := by
  constructor
  · rintro ⟨probe, member, filled, found⟩
    exact ⟨probe, (same probe filled).1 member, filled, found⟩
  · rintro ⟨probe, member, filled, found⟩
    exact ⟨probe, (same probe filled).2 member, filled, found⟩

namespace Site

/-- The site with other texts that make a target a probe. -/
def withProbes (site : Site) (probes : List String) : Site :=
  { site with
    settings :=
      { site.settings with preview := { site.settings.preview with probePaths := probes } } }

/-- The answer to every probe: the mandated fields and nothing else, and nothing is
written down. -/
def unnoticed : Exchange where
  response :=
    { status := 204
      headers :=
        ⟨[⟨"cache-control", Bytes.ofString "no-cache, no-store, must-revalidate"⟩,
          ⟨"pragma", Bytes.ofString "no-cache"⟩,
          ⟨"expires", Bytes.ofString "0"⟩,
          ⟨"access-control-allow-origin", Bytes.ofString "*"⟩,
          ⟨"access-control-allow-methods", Bytes.ofString "GET, POST, OPTIONS"⟩,
          ⟨"access-control-allow-headers", Bytes.ofString "*"⟩]⟩
      body := [] }
  journal := {}

variable {site : Site} {fs : FileSystem} {r : Request} {t : Timing} {probes : List String}

/-- **A probe is answered from nothing but its target.** -/
theorem handle_of_isProbe (probe : site.settings.isProbe r.target = true) (fs : FileSystem)
    (t : Timing) : site.handle fs r t = .ok unnoticed := by
  have mandated : Reply.noContent.withPreview.response = unnoticed.response := by
    decide +kernel
  rw [handle, if_pos probe]
  dsimp only
  rw [mandated]
  rfl

theorem isProbe_withProbes (site : Site) (probes : List String) (target : List Char) :
    (site.withProbes probes).settings.isProbe target = true ↔ Settings.Probes probes target :=
  Settings.isProbe_iff _ _

theorem serve_withProbes (site : Site) (probes : List String) (fs : FileSystem) (f : Fetch) :
    (site.withProbes probes).serve fs f = site.serve fs f := by
  unfold serve serveDirectory
  rfl

theorem dispatch_withProbes (site : Site) (probes : List String) (fs : FileSystem) (r : Request) :
    (site.withProbes probes).dispatch fs r = site.dispatch fs r := by
  unfold dispatch
  simp only [serve_withProbes]

/-- Nothing else than what is a probe depends on the texts that make one. -/
theorem handle_withProbes
    (same : (site.withProbes probes).settings.isProbe r.target = site.settings.isProbe r.target)
    (fs : FileSystem) (t : Timing) :
    (site.withProbes probes).handle fs r t = site.handle fs r t := by
  have logged : (site.withProbes probes).settings.logging = site.settings.logging := rfl
  rw [handle, handle, same, dispatch_withProbes, logged]

/-- **Probes are silent and blind, and nothing else is one.**  A target that holds one of
the texts is answered with the mandated fields alone, whatever its method, its fields and
the file system are, and is not written down.  A target that holds none of them is
answered as if no probes were set.  The empty text is in every target and makes none a
probe, and it does not matter in which order and how often a text is set. -/
theorem probes_unnoticed (site : Site) (probes : List String) (r : Request) (t : Timing) :
    (Settings.Probes probes r.target →
      ∀ fs, (site.withProbes probes).handle fs r t = .ok unnoticed) ∧
    (¬ Settings.Probes probes r.target →
      ∀ fs, (site.withProbes probes).handle fs r t = (site.withProbes []).handle fs r t) ∧
    ∀ probes', Settings.SameProbes probes probes' →
      ∀ fs, (site.withProbes probes').handle fs r t = (site.withProbes probes).handle fs r t := by
  refine ⟨?_, ?_, ?_⟩
  · intro probe fs
    exact handle_of_isProbe ((isProbe_withProbes site probes r.target).2 probe) fs t
  · intro other fs
    have none_ : (site.withProbes []).settings.isProbe r.target = false := rfl
    have plain : (site.withProbes probes).settings.isProbe r.target = false := by
      rw [Bool.eq_false_iff, Ne, isProbe_withProbes]
      exact other
    have alike : ((site.withProbes []).withProbes probes).settings.isProbe r.target =
        (site.withProbes []).settings.isProbe r.target := plain.trans none_.symm
    exact handle_withProbes alike fs t
  · intro probes' same fs
    have alike : ((site.withProbes probes).withProbes probes').settings.isProbe r.target =
        (site.withProbes probes).settings.isProbe r.target := by
      rw [Bool.eq_iff_iff]
      exact (isProbe_withProbes _ probes' _).trans
        ((Settings.probes_congr same r.target).symm.trans (isProbe_withProbes _ probes _).symm)
    exact handle_withProbes alike fs t

/-- What a development tool asks for below a page is not noticed, by any method, and with
an empty text among the probes the page itself still is. -/
theorem probes_unnoticed_toolAndPage :
    (∀ fs, (Example.atTop.withProbes ["", "/@vite/client"]).handle fs
        (Example.request (.other "POST") "/pages/@vite/client?t=1") Example.timing =
      .ok unnoticed) ∧
    ∀ fs, (Example.atTop.withProbes ["", "/@vite/client"]).handle fs
        (Example.request .get "/pages/") Example.timing =
      (Example.atTop.withProbes []).handle fs (Example.request .get "/pages/") Example.timing := by
  have tool : Settings.Probes ["", "/@vite/client"] "/pages/@vite/client?t=1".toList :=
    (isProbe_withProbes Example.atTop _ _).1 (by decide +kernel)
  have page : ¬ Settings.Probes ["", "/@vite/client"] "/pages/".toList := by
    rw [← isProbe_withProbes Example.atTop]
    decide +kernel
  exact ⟨(probes_unnoticed Example.atTop _ _ _).1 tool,
    (probes_unnoticed Example.atTop _ _ _).2.1 page⟩

end Site

end StaticPreview
