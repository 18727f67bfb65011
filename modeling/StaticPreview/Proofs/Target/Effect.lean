/-
# StaticPreview.Proofs.Target.Effect -- what a run of segments does, whatever stands around it

A run of segments does two things to the names that were placed before it: it takes some
of them away, the last ones first, and then it places some of its own (`Effect`).  The
steps up that find a name of the run itself to take away are settled within the run; only
those that find none reach further.  So what a run does is known from the run alone
(`foldl_place_eq`), and a run can be put in between any other two without a change exactly
when it does nothing (`settle_insert`, `effect_eq_of_settle`).

Reading does not reach across a solidus, so a path that is put in between two others adds
its own segments to theirs and changes none of them (`names_between`).  All the laws of
normal paths follow from what the segments do: those that mean nothing, a name that is
left again at once, and steps up from the root (`normal_paths`).
-/
import Mathlib.Data.List.Basic
import StaticPreview.Proofs.Target.Link

namespace StaticPreview.Target

open StaticPreview.Text

/-! ## Runs of segments -/

/-- What a run of segments does to the names that were placed before it. -/
structure Effect where
  /-- How many of them it takes away. -/
  ups : Nat := 0
  /-- The names that it places then, last first. -/
  placed : List (List Char) := []
  deriving DecidableEq, Repr

namespace Effect

/-- What a run does that has one more segment. -/
def next (e : Effect) (segment : List Char) : Effect :=
  if segment = ['.', '.'] then
    match e.placed with
    | [] => { e with ups := e.ups + 1 }
    | _ :: placed => { e with placed }
  else if isEntry segment then { e with placed := segment :: e.placed }
  else e

/-- The names after a run, last first, from those before it. -/
def apply (e : Effect) (placed : List (List Char)) : List (List Char) :=
  e.placed ++ placed.drop e.ups

/-- **One more segment does to the names after a run what it does to any names.** -/
theorem apply_next (e : Effect) (segment : List Char) (placed : List (List Char)) :
    (e.next segment).apply placed = place (e.apply placed) segment := by
  unfold next place
  by_cases up : segment = ['.', '.']
  · rw [if_pos up, if_pos up]
    cases own : e.placed with
    | nil => simp [apply, own]
    | cons name names => simp [apply, own]
  · rw [if_neg up, if_neg up]
    by_cases entry : isEntry segment = true
    · rw [if_pos entry, if_pos entry]
      rfl
    · rw [if_neg entry, if_neg entry]

end Effect

/-- What a run of segments does. -/
def effect (run : List (List Char)) : Effect := run.foldl Effect.next {}

variable {run : List (List Char)} {segment : List Char}

/-- **What becomes of the names before a run depends on nothing else.** -/
theorem foldl_place_eq (run placed : List (List Char)) :
    run.foldl place placed = (effect run).apply placed := by
  have follows (e : Effect) :
      run.foldl place (e.apply placed) = (run.foldl Effect.next e).apply placed := by
    induction run generalizing e with
    | nil => rfl
    | cons segment run ih => rw [List.foldl_cons, List.foldl_cons, ← Effect.apply_next, ih]
  exact follows {}

theorem settle_append (front run : List (List Char)) :
    settle (front ++ run) = ((effect run).apply (settle front).reverse).reverse := by
  rw [settle, List.foldl_append, foldl_place_eq run, settle, List.reverse_reverse]

/-- A run that does nothing may stand anywhere. -/
theorem settle_insert (idle : effect run = {}) (front behind : List (List Char)) :
    settle (front ++ run ++ behind) = settle (front ++ behind) := by
  have same : settle (front ++ run) = settle front := by
    rw [settle_append, idle]
    simp [Effect.apply]
  rw [settle_append, same, settle_append]

/-- At the root, what does not go down stays there. -/
theorem settle_cons (stays : place [] segment = []) (run : List (List Char)) :
    settle (segment :: run) = settle run := by
  rw [settle, List.foldl_cons, stays, settle]

theorem settle_cons_nil (run : List (List Char)) : settle ([] :: run) = settle run :=
  settle_cons (by decide) run

theorem settle_replicate (n : Nat) : settle (List.replicate n ['a']) = List.replicate n ['a'] := by
  have entries : ∀ name ∈ List.replicate n ['a'], isEntry name = true := by
    intro name member
    rw [List.eq_of_mem_replicate member]
    decide
  rw [settle, foldl_place entries, List.append_nil, List.reverse_reverse]

/-- **A run that may stand anywhere does nothing.**  Between nothing and nothing it leaves
the names that it places, and behind as many names as it takes away it leaves none. -/
theorem effect_eq_of_settle
    (same : ∀ n, settle (List.replicate n ['a'] ++ run) = settle (List.replicate n ['a'])) :
    effect run = {} := by
  have placesNone : (effect run).placed = [] := by
    have alone := same 0
    rw [settle_append, settle_replicate] at alone
    simpa [Effect.apply] using alone
  have takesNone : (effect run).ups = 0 := by
    have behind := same (effect run).ups
    rw [settle_append, settle_replicate, Effect.apply, placesNone] at behind
    simpa using behind
  calc effect run = ⟨(effect run).ups, (effect run).placed⟩ := rfl
    _ = {} := by rw [placesNone, takesNone]

/-! ## Runs that do nothing -/

theorem effect_of_silent (silent : IsSilent segment) : effect [segment] = {} := by
  obtain ⟨down, noEntry⟩ := not_entry_of_silent silent
  show Effect.next {} segment = {}
  rw [Effect.next, if_neg down, if_neg noEntry]

/-- Going to a name and back does nothing. -/
theorem effect_of_back (entry : isEntry segment = true) :
    effect [segment, ['.', '.']] = {} := by
  have down : ¬ segment = ['.', '.'] := ((isEntry_iff segment).1 entry).2.2.1
  have went : Effect.next {} segment = { placed := [segment] } := by
    rw [Effect.next, if_neg down, if_pos entry]
  show (Effect.next {} segment).next ['.', '.'] = {}
  rw [went]
  rfl

/-! ## Paths -/

/-- A text in which neither a query nor a fragment begins. -/
structure IsBare (path : List Char) : Prop where
  noMark : '?' ∉ path
  noNumber : '#' ∉ path

/-- The segments of a path as they are read. -/
def segments (path : List Char) : List (List Char) := Pieces.split '/' (Percent.decode path)

variable {a b x s d path : List Char}

theorem IsBare.append_slash (left : IsBare a) (right : IsBare b) : IsBare (a ++ '/' :: b) := by
  refine ⟨?_, ?_⟩
  · simp [left.noMark, right.noMark]
  · simp [left.noNumber, right.noNumber]

theorem split_of_isBare (bare : IsBare path) : split path = (path, none) := by
  rw [split, Pieces.cutAt_of_not_mem bare.noNumber]
  exact Pieces.cutAt_of_not_mem bare.noMark

/-- **What begins a query or a fragment ends the path, whatever follows.** -/
theorem path_append_cons (bare : IsBare path) {c : Char} (ends : c = '?' ∨ c = '#')
    (rest : List Char) : (split (path ++ c :: rest)).1 = path := by
  rcases ends with rfl | rfl
  · have whole : (Pieces.cutAt '#' (path ++ '?' :: rest)).1 =
        path ++ '?' :: (Pieces.cutAt '#' rest).1 := by
      rw [Pieces.cutAt_append bare.noNumber]
      rfl
    rw [split, whole, Pieces.cutAt_append_cons bare.noMark]
  · rw [split, Pieces.cutAt_append_cons bare.noNumber, Pieces.cutAt_of_not_mem bare.noMark]

theorem resolve_congr (root : Bytes) {target other : List Char}
    (same : (split target).1 = (split other).1) : resolve root target = resolve root other := by
  rw [resolve, resolve, same]

/-- Reading does not reach across a solidus. -/
theorem segments_append_slash (s t : List Char) :
    segments (s ++ '/' :: t) = segments s ++ segments t := by
  rw [segments, Percent.decode_append_slash, Pieces.split_append_cons]
  rfl

theorem segments_nil : segments [] = [[]] := rfl

theorem segments_of_decode {segment : List Char} (read : Percent.decode x = segment)
    (whole : '/' ∉ segment) : segments x = [segment] := by
  rw [segments, read, Pieces.split_of_not_mem whole]

theorem names_of_isBare (bare : IsBare path) :
    names path = (settle (segments path)).map Utf8.encode := by
  rw [names, split_of_isBare bare]
  rfl

/-- A path between two others adds its segments to theirs. -/
theorem names_between (left : IsBare a) (middle : IsBare x) (right : IsBare b) :
    names (a ++ '/' :: (x ++ '/' :: b)) =
      (settle (segments a ++ segments x ++ segments b)).map Utf8.encode := by
  rw [names_of_isBare (left.append_slash (middle.append_slash right)), segments_append_slash,
    segments_append_slash, List.append_assoc]

/-- **A path whose segments do nothing may be put in between any two.** -/
theorem names_insert (idle : effect (segments x) = {}) (left : IsBare a) (middle : IsBare x)
    (right : IsBare b) : names (a ++ '/' :: (x ++ '/' :: b)) = names (a ++ '/' :: b) := by
  rw [names_between left middle right, settle_insert idle,
    names_of_isBare (left.append_slash right), segments_append_slash]

/-- Different names below a root make different paths. -/
theorem eq_names_of_fsPath {root : Bytes} {target other : List Char}
    (same : (resolve root target).fsPath = (resolve root other).fsPath) :
    names target = names other := by
  have components := congrArg Path.components same
  rw [resolve_fsPath, resolve_fsPath, Path.components_extend fun _ => isPlain_of_mem_names,
    Path.components_extend fun _ => isPlain_of_mem_names, List.append_cancel_left_eq] at components
  exact List.map_injective_iff.2 (fun _ _ => Path.Component.name.inj) components

/-- A path that may be put in between any two has segments that do nothing. -/
theorem effect_of_fsPath {root : Bytes} (middle : IsBare x)
    (same : ∀ a b, IsBare a → IsBare b →
      (resolve root (a ++ '/' :: (x ++ '/' :: b))).fsPath = (resolve root (a ++ '/' :: b)).fsPath) :
    effect (segments x) = {} := by
  have right : IsBare [] := ⟨by simp, by simp⟩
  apply effect_eq_of_settle
  intro n
  have left : IsBare (link (List.replicate n ['a'])) :=
    ⟨not_mem_link (by decide), not_mem_link (by decide)⟩
  have front : segments (link (List.replicate n ['a'])) = [] :: List.replicate n ['a'] := by
    rw [segments, decode_link]
    apply split_flatMap_slash
    intro name member
    rw [List.eq_of_mem_replicate member]
    decide
  have equal := eq_names_of_fsPath (same _ _ left right)
  rw [names_between left middle right, names_of_isBare (left.append_slash right),
    segments_append_slash, segments_nil, settle_append_nil, settle_append_nil, front] at equal
  -- the link of some names has an empty segment in front, before its first solidus
  have settled := List.map_injective_iff.2 (fun _ _ => Utf8.encode_injective) equal
  rwa [List.cons_append, settle_cons_nil, settle_cons_nil] at settled

/-! ## The laws of normal paths -/

/-- Steps up in front of a path, from the root. -/
theorem settle_segments_ups {ups : List (List Char)}
    (up : ∀ step ∈ ups, Percent.decode step = ['.', '.']) (b : List Char) :
    settle (segments (ups.flatMap (· ++ ['/']) ++ b)) = settle (segments b) := by
  induction ups with
  | nil => rfl
  | cons step ups ih =>
      have first : segments step = [['.', '.']] :=
        segments_of_decode (up step List.mem_cons_self) (by decide)
      rw [List.flatMap_cons, List.append_assoc, List.append_assoc, List.singleton_append,
        segments_append_slash, first, List.singleton_append, settle_cons (by decide)]
      exact ih fun other member => up other (List.mem_cons_of_mem _ member)

theorem IsBare.flatMap_slash {ups : List (List Char)} (bare : ∀ step ∈ ups, IsBare step)
    (right : IsBare b) : IsBare (ups.flatMap (· ++ ['/']) ++ b) := by
  induction ups with
  | nil => exact right
  | cons step ups ih =>
      rw [List.flatMap_cons, List.append_assoc, List.append_assoc, List.singleton_append]
      exact (bare step List.mem_cons_self).append_slash
        (ih fun other member => bare other (List.mem_cons_of_mem _ member))

/-- A solidus in front means nothing. -/
theorem names_cons_slash (bare : IsBare path) : names ('/' :: path) = names path := by
  have whole : IsBare ('/' :: path) := IsBare.append_slash (a := []) ⟨by simp, by simp⟩ bare
  have read : segments ('/' :: path) = [] :: segments path := segments_append_slash [] path
  rw [names_of_isBare whole, names_of_isBare bare, read, settle_cons_nil]

theorem fsPath_eq_of_names (root : Bytes) {target other : List Char}
    (same : names target = names other) :
    (resolve root target).fsPath = (resolve root other).fsPath := by
  rw [resolve_fsPath, resolve_fsPath, same]

/-- **The laws of normal paths.**  What may be put in between any two paths is what has
segments that do nothing: a segment that means nothing and a name that is left again at
once are of that kind, in whatever spelling.  Steps up in front of a path do nothing, and
neither does a query or a fragment behind it. -/
theorem normal_paths (root : Bytes) :
    (∀ x, IsBare x →
      ((∀ a b, IsBare a → IsBare b →
          (resolve root (a ++ '/' :: (x ++ '/' :: b))).fsPath =
            (resolve root (a ++ '/' :: b)).fsPath) ↔ effect (segments x) = {})) ∧
      (∀ a x b, IsBare a → IsBare x → IsBare b →
        IsSilent (Percent.decode x) → '/' ∉ Percent.decode x →
          (resolve root (a ++ '/' :: (x ++ '/' :: b))).fsPath =
            (resolve root (a ++ '/' :: b)).fsPath) ∧
      (∀ a s d b, IsBare a → IsBare s → IsBare d → IsBare b →
        isEntry (Percent.decode s) = true → '/' ∉ Percent.decode s →
          Percent.decode d = ['.', '.'] →
            (resolve root (a ++ '/' :: ((s ++ '/' :: d) ++ '/' :: b))).fsPath =
              (resolve root (a ++ '/' :: b)).fsPath) ∧
      (∀ (ups : List (List Char)) b,
        (∀ up ∈ ups, IsBare up ∧ Percent.decode up = ['.', '.']) → IsBare b →
        (resolve root (ups.flatMap (· ++ ['/']) ++ b)).fsPath = (resolve root b).fsPath ∧
          (resolve root ('/' :: (ups.flatMap (· ++ ['/']) ++ b))).fsPath =
            (resolve root ('/' :: b)).fsPath) ∧
      ∀ path c rest, IsBare path → c = '?' ∨ c = '#' →
        resolve root (path ++ c :: rest) = resolve root path := by
  have insert {a x b : List Char} (left : IsBare a) (middle : IsBare x) (right : IsBare b)
      (idle : effect (segments x) = {}) :
      (resolve root (a ++ '/' :: (x ++ '/' :: b))).fsPath =
        (resolve root (a ++ '/' :: b)).fsPath :=
    fsPath_eq_of_names root (names_insert idle left middle right)
  refine ⟨fun x middle => ⟨effect_of_fsPath middle, fun idle a b left right => ?_⟩,
    fun a x b left middle right silent whole => ?_,
    fun a s d b left name back right entry whole up => ?_,
    fun ups b up right => ?_, fun path c rest bare ends => ?_⟩
  · exact insert left middle right idle
  · apply insert left middle right
    rw [segments_of_decode rfl whole]
    exact effect_of_silent silent
  · apply insert left (name.append_slash back) right
    rw [segments_append_slash, segments_of_decode rfl whole,
      segments_of_decode up (by decide), List.singleton_append]
    exact effect_of_back entry
  · have bare := IsBare.flatMap_slash (fun step member => (up step member).1) right
    have same : names (ups.flatMap (· ++ ['/']) ++ b) = names b := by
      rw [names_of_isBare bare, names_of_isBare right,
        settle_segments_ups fun step member => (up step member).2]
    refine ⟨fsPath_eq_of_names root same, fsPath_eq_of_names root ?_⟩
    rw [names_cons_slash bare, names_cons_slash right, same]
  · apply resolve_congr
    rw [path_append_cons bare ends, split_of_isBare bare]

namespace Example

/-- The laws next to half an escape and half a character: `%5c..` is left out for its
backslash, `%c3/%2E.` goes to a name and back, `.%2e` goes up from the root. -/
theorem normal_paths_of_odd :
    (resolve [0x2F] "/%E4%/%5c../%bdx".toList).fsPath =
        (resolve [0x2F] "/%E4%/%bdx".toList).fsPath ∧
      (resolve [0x2F] "/%E4%/%c3/%2E./%bdx".toList).fsPath =
        (resolve [0x2F] "/%E4%/%bdx".toList).fsPath ∧
      (resolve [0x2F] "/../.%2e/%bdx".toList).fsPath = (resolve [0x2F] "/%bdx".toList).fsPath ∧
      resolve [0x2F] "/%E4%#/?".toList = resolve [0x2F] "/%E4%".toList := by
  obtain ⟨-, silent, back, up, behind⟩ := normal_paths [0x2F]
  have bare {s : List Char} (h : (s.all fun c => c != '?' && c != '#') = true) : IsBare s := by
    simp only [List.all_eq_true, Bool.and_eq_true, bne_iff_ne] at h
    exact ⟨fun member => (h _ member).1 rfl, fun member => (h _ member).2 rfl⟩
  refine ⟨?_, ?_, ?_, ?_⟩
  · exact silent "/%E4%".toList "%5c..".toList "%bdx".toList (bare (by decide)) (bare (by decide))
      (bare (by decide)) (Or.inr (Or.inr (Or.inl (by decide)))) (by decide)
  · exact back "/%E4%".toList "%c3".toList "%2E.".toList "%bdx".toList (bare (by decide))
      (bare (by decide)) (bare (by decide)) (bare (by decide)) (by decide) (by decide) (by decide)
  · refine (up ["..".toList, ".%2e".toList] "%bdx".toList ?_ (bare (by decide))).2
    intro step member
    rcases List.mem_pair.1 member with rfl | rfl
    · exact ⟨bare (by decide), by decide⟩
    · exact ⟨bare (by decide), by decide⟩
  · exact behind "/%E4%".toList '#' "/?".toList (bare (by decide)) (Or.inr rfl)

end Example

end StaticPreview.Target
