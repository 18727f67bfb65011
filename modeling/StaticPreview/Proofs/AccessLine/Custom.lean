/-
# StaticPreview.Proofs.AccessLine.Custom -- an entry put into a pattern

A pattern is meant to be read in one pass: so read, the patterns that the common and the
combined format are described by give these formats (`onePass_commonPattern`,
`onePass_combinedPattern`).

An entry is put into it one variable after another, and the texts of an entry are what a
client sends.  Where the pattern is read once the line is that of the one pass, and that can
be computed for a pattern and an entry; `line_onePass` says which entries every pattern is
read once with, and which entries every pattern that has gaps about its variables.  An entry
whose path holds the name of a variable is none of these, and its line is another
(`not_line_onePass`).
-/
import StaticPreview.Pieces
import StaticPreview.Proofs.AccessLine
import StaticPreview.Proofs.AccessLine.Spaced

namespace StaticPreview

open AccessLine

namespace AccessLine

/-! ## Whether a pattern is read once -/

variable {bs : Bindings} {k : Nat} {ps : List Part} {s : List Char}

theorem standsOnly_iff :
    StandsOnly bs k ps s ↔ ∀ n < s.length + 1, nameOf bs.names k <+: s.drop n →
      ∃ l < ps.length, ps[l]? = some (.name k) ∧ shown bs k (ps.take l) = s.take n := by
  constructor
  · rintro only n bound ⟨b, begins⟩
    have whole : s = s.take n ++ nameOf bs.names k ++ b := by
      rw [List.append_assoc, begins, List.take_append_drop]
    obtain ⟨before, after, rfl, front⟩ := only _ _ whole
    refine ⟨before.length, by simp, by simp, ?_⟩
    rw [List.take_left, front]
  · rintro all a b rfl
    have begins : nameOf bs.names k <+: (a ++ nameOf bs.names k ++ b).drop a.length := by
      rw [List.append_assoc, List.drop_left]
      exact List.prefix_append _ _
    have within : a.length < (a ++ nameOf bs.names k ++ b).length + 1 := by
      rw [List.length_append, List.length_append]
      omega
    obtain ⟨l, bound, part, front⟩ := all a.length within begins
    rw [List.append_assoc, List.take_left] at front
    obtain ⟨_, there⟩ := List.getElem?_eq_some_iff.1 part
    refine ⟨ps.take l, ps.drop (l + 1), ?_, front⟩
    rw [← there, List.getElem_cons_drop, List.take_append_drop]

instance : Decidable (StandsOnly bs k ps s) := decidable_of_iff _ standsOnly_iff.symm

instance (pattern : List Char) : Decidable (ReadsOnce bs pattern) := by
  unfold ReadsOnce
  infer_instance

end AccessLine

namespace AccessEntry

/-! ## The variables -/

/-- The names of the variables. -/
def variableNames : List (List Char) :=
  ["$remote_addr", "$time_local", "$time_iso8601", "$request_time", "$request_method",
    "$request_uri", "$request", "$status", "$body_bytes_sent", "$http_referer",
    "$http_user_agent"].map String.toList

theorem variables_variableNames : Variables variableNames where
  signed := by
    have all : ∀ i < variableNames.length, (nameOf variableNames i).head? = some '$' ∧
        '$' ∉ (nameOf variableNames i).tail := by decide +kernel
    intro i known
    obtain ⟨sign, other⟩ := all i known
    exact ⟨_, (List.cons_head?_tail sign).symm, other⟩
  ordered := by decide +kernel
  behind := by
    have all : ∀ j < variableNames.length, ∀ i < j, ∀ m < i,
        nameOf variableNames i <+: nameOf variableNames m →
          Pieces.hasInfix ((nameOf variableNames m).drop (nameOf variableNames i).length)
            (nameOf variableNames j) = false := by decide +kernel
    intro j known i earlier m before z written inside
    have none_ := all j known i earlier m before (written ▸ List.prefix_append _ _)
    rw [written, List.drop_left, (Pieces.hasInfix_iff _ _).2 inside] at none_
    cases none_

/-- The variables of an entry, with their names and texts as lists of characters. -/
def charBindings (e : AccessEntry) : Bindings :=
  e.bindings.map fun (name, text) => (name.toList, text.toList)

/-! ## Patterns -/

/-- The line that a pattern is written for. -/
def onePass (e : AccessEntry) (pattern : String) : String :=
  String.ofList (AccessLine.onePass e.charBindings pattern.toList)

/-- An entry with which every variable of a pattern is read once. -/
def ReadsOnce (e : AccessEntry) (pattern : String) : Prop :=
  AccessLine.ReadsOnce e.charBindings pattern.toList

instance (e : AccessEntry) (pattern : String) : Decidable (e.ReadsOnce pattern) := by
  unfold ReadsOnce
  infer_instance

/-- An entry whose texts touch no name of a variable that is put in later. -/
def Inert (e : AccessEntry) : Prop := AccessLine.Inert e.charBindings

/-- An entry whose texts have no name of a variable in them that is put in later. -/
def Clean (e : AccessEntry) : Prop := AccessLine.Clean e.charBindings

/-- A pattern with gaps about its variables. -/
def SpacedPattern (pattern : String) : Prop :=
  Spaced variableNames (parts variableNames pattern.toList)

/-- The common log format, as a pattern. -/
def commonPattern : String :=
  "$remote_addr - - [$time_local] \"$request\" $status $body_bytes_sent"

/-- The combined log format, as a pattern. -/
def combinedPattern : String := commonPattern ++ " \"$http_referer\" \"$http_user_agent\""

theorem onePass_eq (e : AccessEntry) {pattern line : String} {ps : List Part}
    (taken : parts variableNames pattern.toList = ps)
    (shows : shown e.charBindings 11 ps = line.toList) : e.onePass pattern = line := by
  have all : AccessLine.onePass e.charBindings pattern.toList = line.toList := by
    rw [← shows, ← taken]
    rfl
  rw [onePass, all, String.ofList_toList]

/-- The parts of the common log format. -/
def commonParts : List Part :=
  .name 0 :: (" - - [".toList.map Part.sign ++ .name 1 :: ("] \"".toList.map Part.sign ++
    .name 6 :: ("\" ".toList.map Part.sign ++ .name 7 :: .sign ' ' :: [.name 8])))

/-- **Read in one pass, the pattern of the common format gives it.** -/
theorem onePass_commonPattern (e : AccessEntry) : e.onePass commonPattern = e.common := by
  have taken : parts variableNames commonPattern.toList = commonParts := by
    decide +kernel
  apply e.onePass_eq taken
  simp [commonParts, shown, Part.shown, textOf, charBindings, bindings, common]

/-- So does that of the combined format. -/
theorem onePass_combinedPattern (e : AccessEntry) : e.onePass combinedPattern = e.combined := by
  have taken : parts variableNames combinedPattern.toList =
      commonParts ++ (" \"".toList.map Part.sign ++ .name 9 :: ("\" \"".toList.map Part.sign ++
        .name 10 :: [.sign '"'])) := by
    decide +kernel
  apply e.onePass_eq taken
  simp [commonParts, shown, Part.shown, textOf, charBindings, bindings, common, combined]

theorem line_of_not_mem (e : AccessEntry) {pattern : String} (own : pattern ∉ standardFormats) :
    e.line pattern = e.custom pattern := by
  simp only [standardFormats, List.mem_cons, List.not_mem_nil, or_false, not_or] at own
  rw [line, if_neg own.2.1, if_neg own.1, if_neg own.2.2]

/-- **A pattern that is read once gives the line of the one pass.**  Every pattern is, exactly
with the entries whose texts touch no later name; and every pattern with gaps about its
variables is, exactly with the entries whose texts have no later name in them. -/
theorem line_onePass (e : AccessEntry) :
    (∀ pattern, pattern ∉ standardFormats → e.ReadsOnce pattern →
      e.line pattern = e.onePass pattern) ∧
    ((∀ pattern, e.ReadsOnce pattern) ↔ e.Inert) ∧
    ((∀ pattern, SpacedPattern pattern → e.ReadsOnce pattern) ↔ e.Clean) := by
  have vars : Variables e.charBindings.names := variables_variableNames
  -- a pattern is a text or a list of characters
  have texts (P : List Char → Prop) : (∀ pattern : String, P pattern.toList) ↔ ∀ s, P s :=
    ⟨fun all s => by simpa using all (String.ofList s), fun all pattern => all pattern.toList⟩
  refine ⟨?_, ?_, ?_⟩
  · intro pattern own once
    rw [e.line_of_not_mem own, onePass, ← substitute_eq_onePass vars.filled once]
    rfl
  · exact (texts _).trans (readsOnce_iff_inert vars)
  · exact (texts _).trans (readsOnce_iff_clean vars)

/-- The pattern of the common format has gaps about its variables. -/
example : SpacedPattern commonPattern := by
  unfold SpacedPattern
  decide +kernel

namespace Example

/-- A request for a page, by a telephone in the house. -/
def visit : AccessEntry where
  remoteAddr := "192.168.1.20"
  time := { instant := Time.Instant.ofSeconds 784111777 }
  method := "GET"
  path := "/pages/home/index.html"
  query := some "v=2"
  bodyBytes := 1234
  referer := some "http://192.168.1.5:8081/"
  userAgent := some "Mozilla/5.0 (iPhone)"
  micros := 1500

/-- A pattern with blanks between its variables. -/
def brief : String := "$remote_addr $request_method $status $request_time"

/-- A request for the path `/$status`. -/
def prying : AccessEntry where
  remoteAddr := "192.168.1.20"
  time := { instant := Time.Instant.ofSeconds 784111777 }
  method := "GET"
  path := "/$status"

end Example

/-- The values of a visit stay apart in a brief line. -/
theorem line_onePass_brief :
    Example.brief ∉ standardFormats ∧ Example.visit.ReadsOnce Example.brief ∧
      Example.visit.line Example.brief = "192.168.1.20 GET 200 0.002" := by
  have own : Example.brief ∉ standardFormats := by decide
  have once : Example.visit.ReadsOnce Example.brief := by decide +kernel
  have shows : Example.visit.onePass Example.brief = "192.168.1.20 GET 200 0.002" := by
    decide +kernel
  exact ⟨own, once, ((line_onePass Example.visit).1 Example.brief own once).trans shows⟩

/-- **A path can be read for a variable**: it is shown with the status in it, also where the
common format, which is described by the same pattern, shows it as it is. -/
theorem not_line_onePass :
    "$request" ∉ standardFormats ∧ Example.prying.line "$request" = "GET /200 HTTP/1.1" ∧
      Example.prying.onePass "$request" = "GET /$status HTTP/1.1" ∧
      Example.prying.line commonPattern ≠ Example.prying.common := by
  decide +kernel

/-- An address can make a name together with what stands beside it. -/
example : ¬ Example.visit.ReadsOnce "$time_iso860$remote_addr" := by decide +kernel

end AccessEntry

end StaticPreview
