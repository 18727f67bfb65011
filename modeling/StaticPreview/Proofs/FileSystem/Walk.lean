/-
# StaticPreview.Proofs.FileSystem.Walk -- a canonical location has no links on its way

A location is *real* when everything above it is a directory and what stands there is
no link.  Every step of a walk that follows its last link leads from a real location
to a real one: down to an entry that is there and is no link, up to a directory on the
way, or over to where a link of a real directory starts (`IsReal.start`).  So a path
that starts at the top has a real canonical location (`isReal_of_canonical`), and it
is there that the entry stands which the path is asked for
(`canonical_of_stat`).
-/
import StaticPreview.FileSystem.Walk
import StaticPreview.Proofs.Outcome

namespace StaticPreview.FileSystem

/-- A location with directories alone above it and something that is no link there. -/
structure IsReal (fs : FileSystem) (l : Location) : Prop where
  above : ∀ d : Location, d <+: l → d ≠ l → ∃ e, fs.find? d = some e ∧ e.node = .directory
  here : ∃ e, fs.find? l = some e ∧ e.node.isLink = false

variable {fs : FileSystem}

namespace IsReal

theorem top : fs.IsReal [] where
  above := by
    intro d hd hne
    exact absurd (List.prefix_nil.1 hd) hne
  here := ⟨FileSystem.top, rfl, rfl⟩

/-- What is reached from a directory of a real location. -/
theorem append {l : Location} {entry : Bytes} {e e' : Entry} (real : fs.IsReal l)
    (directory : fs.find? l = some e) (isDirectory : e.node = .directory)
    (found : fs.find? (l ++ [entry]) = some e') (noLink : e'.node.isLink = false) :
    fs.IsReal (l ++ [entry]) where
  above := by
    intro d hd hne
    rcases List.prefix_concat_iff.1 hd with rfl | below
    · exact absurd rfl hne
    · by_cases same : d = l
      · subst same
        exact ⟨e, directory, isDirectory⟩
      · exact real.above d below same
  here := ⟨e', found, noLink⟩

/-- What is one step above a real location. -/
theorem dropLast {l : Location} (real : fs.IsReal l) : fs.IsReal l.dropLast := by
  by_cases hl : l = []
  · subst hl
    exact real
  · have proper : l.dropLast ≠ l := by
      intro e
      have shorter := congrArg List.length e
      have positive := List.length_pos_iff.2 hl
      rw [List.length_dropLast] at shorter
      omega
    refine ⟨?_, ?_⟩
    · intro d hd hne
      have below : d <+: l := hd.trans (List.dropLast_prefix l)
      refine real.above d below ?_
      rintro rfl
      exact proper (hd.eq_of_length_le (by simp)).symm
    · obtain ⟨e, found, isDirectory⟩ := real.above _ (List.dropLast_prefix l) proper
      exact ⟨e, found, by rw [isDirectory]; rfl⟩

/-- Where the path of a link starts that stands in a real directory. -/
theorem start {l : Location} (real : fs.IsReal l) (p : Bytes) : fs.IsReal (start p l) := by
  unfold FileSystem.start
  split
  · exact top
  · exact real

end IsReal

theorem isLink_eq_false {e : Entry} (noLink : ∀ target modified locked,
    e = { node := .link target, modified, locked } → False) : e.node.isLink = false := by
  obtain ⟨node, modified, locked⟩ := e
  cases node with
  | link target => exact (noLink target modified locked rfl).elim
  | file | directory | socket | null => rfl

/-- One walk without its links keeps a location real when the walks behind them do. -/
theorem isReal_of_walkWith {onLink : Location → List Step → Except IoError Landing}
    (hlink : ∀ a ss l, fs.IsReal a → onLink a ss = .ok (.found l) → fs.IsReal l)
    {a : Location} {ss : List Step} {l : Location} (real : fs.IsReal a)
    (h : walkWith fs true onLink a ss = .ok (.found l)) : fs.IsReal l := by
  fun_induction walkWith fs true onLink a ss with
  | case1 a =>
      simp only [Except.ok.injEq, Landing.found.injEq] at h
      exact h ▸ real
  | case2 _ _ _ _ _ ih => exact ih real h
  | case3 => simp at h
  | case4 _ _ _ _ _ _ ih => exact ih real h
  | case5 => simp at h
  | case6 _ _ _ _ _ _ ih => exact ih real.dropLast h
  | case7 => simp at h
  | case8 => simp at h
  | case9 => simp at h
  | case10 => simp at h
  | case11 => exact hlink _ _ _ (real.start _) h
  | case12 =>
      rename_i kept
      exact absurd (Or.inl rfl) kept
  | case13 =>
      rename_i directory entry _ _ e noLink found ih
      exact ih (real.append directory rfl found (isLink_eq_false noLink)) h
  | case14 => simp at h

/-- **A walk that follows its last link leads from a real location to a real one.** -/
theorem isReal_of_walk {links : Nat} {a : Location} {ss : List Step} {l : Location}
    (real : fs.IsReal a) (h : walk fs true links a ss = .ok (.found l)) : fs.IsReal l := by
  induction links generalizing a ss l with
  | zero => exact isReal_of_walkWith (by simp) real h
  | succ links ih => exact isReal_of_walkWith (fun _ _ _ => ih) real h

/-! ## The location that a path leads to -/

variable {p : Bytes} {l : Location}

theorem location_eq_ok {landing : Landing} (h : landing.location = .ok l) : landing = .found l := by
  cases landing with
  | absent d name => simp [Landing.location] at h
  | found m =>
      simp only [Landing.location, Except.ok.injEq] at h
      rw [h]

theorem walk_of_canonical (h : fs.canonical p = .ok l) :
    walk fs true maxLinks (start p fs.workingDirectory) (steps p) = .ok (.found l) := by
  unfold canonical at h
  split at h
  · exact absurd h (by simp)
  · split at h
    · exact absurd h (by simp)
    · obtain ⟨landing, walked, landed⟩ := exists_of_bind_eq_ok h
      rw [walked, location_eq_ok landed]

/-- **The canonical location of a path that starts at the top is real.** -/
theorem isReal_of_canonical (absolute : Path.isAbsolute p = true) (h : fs.canonical p = .ok l) :
    fs.IsReal l := by
  have walked := walk_of_canonical h
  rw [start, if_pos absolute] at walked
  exact isReal_of_walk IsReal.top walked

/-- What a path leads to stands at its canonical location. -/
theorem canonical_of_find (h : fs.find p = .ok l) : fs.canonical p = .ok l := by
  obtain ⟨landing, found, landed⟩ := exists_of_bind_eq_ok h
  obtain ⟨_, checked, walked⟩ := exists_of_bind_eq_ok found
  have zero : 0 ∉ p := by
    intro member
    simp [checkPath, member] at checked
  have nonempty : p ≠ [] := by
    rintro rfl
    simp [checkPath] at checked
  rw [canonical, if_neg zero, if_neg nonempty, walked]
  exact landed

/-- **The entry that a path is asked for stands at its canonical location.** -/
theorem canonical_of_stat {e : Entry} (h : fs.stat p = .ok e) :
    ∃ l, fs.canonical p = .ok l ∧ fs.find? l = some e := by
  obtain ⟨l, found, stands⟩ := exists_of_bind_eq_ok h
  refine ⟨l, canonical_of_find found, ?_⟩
  unfold entryAt at stands
  split at stands
  · rename_i e' there
    rw [there, Except.ok.inj stands]
  · exact absurd stands (by simp)

/-- A path that leads somewhere is not too long. -/
theorem length_le_of_stat {e : Entry} (h : fs.stat p = .ok e) : p.length ≤ maxPath := by
  obtain ⟨_, found, -⟩ := exists_of_bind_eq_ok h
  obtain ⟨_, landed, -⟩ := exists_of_bind_eq_ok found
  obtain ⟨_, checked, -⟩ := exists_of_bind_eq_ok landed
  refine Nat.le_of_not_lt fun long => ?_
  unfold checkPath at checked
  rw [if_pos long] at checked
  split at checked
  · cases checked
  · split at checked
    · cases checked
    · cases checked

theorem read_of_stat {e : Entry} (h : fs.stat p = .ok e) : fs.read p = e.content :=
  bind_of_eq_ok h

end StaticPreview.FileSystem
