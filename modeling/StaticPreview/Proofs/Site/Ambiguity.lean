/-
# StaticPreview.Proofs.Site.Ambiguity -- which requests a combined line may be about

Two requests with the same combined line have the same address, method, target, version,
status and length: a method is a token and a target has no blank, so the entry of a request
that was read is delimited (`delimited_accessEntry`).

What a client says of itself and of the page it comes from is put between quotes as it is.
Where the two texts are not apart, a quote of the one is taken for the end of it, and there
is another request, with other fields, that leaves the same line: its values are the two
parts of what stands in quotes, cut elsewhere (`Request.saying`).  `combined_alike_iff` says
that these are all the lines that can be taken for those of another request.
-/
import StaticPreview.Proofs.AccessLine.Combined
import StaticPreview.Proofs.Site.Logged

namespace StaticPreview

open StaticPreview.Text

/-- Entries of which the combined format shows the same. -/
structure AccessEntry.Alike (a b : AccessEntry) : Prop extends AccessEntry.SameFront a b where
  referer : a.shownReferer = b.shownReferer
  userAgent : a.shownAgent = b.shownAgent

/-- A request with only these two fields, of these texts. -/
def Request.saying (r : Request) (referer agent : List Char) : Request :=
  { r with headers := ⟨[
      { name := "referer", value := referer.map fun c => c.toNat.toUInt8 },
      { name := "user-agent", value := agent.map fun c => c.toNat.toUInt8 }]⟩ }

namespace Site

open Time

variable {r : Request} {referer agent : List Char}

theorem delimited_accessEntry (accepted : r.Accepted) (response : Response) (t : Timing) :
    (accessEntry r response t).Delimited := by
  refine ⟨?_, accepted.not_mem_name (by decide), ?_, ?_⟩
  · show ' ' ∉ (String.ofList r.peer.ip.text).toList
    rw [String.toList_ofList]
    exact IpAddr.not_mem_text _ (by decide)
  · have sign : '#' ∉ r.target := fun member => (accepted.of_mem_target member).2 rfl
    rw [requestUri_accessEntry sign, String.toList_ofList]
    intro member
    exact absurd (accepted.of_mem_target member).1 (by decide)
  · show '"' ∉ r.version.label.toList
    cases r.version <;> decide

/-- What is shown in quotes are values that were read as texts, or a hyphen. -/
theorem all_quoted (r : Request) (t : Timing) (response : Response) :
    (accessEntry r response t).quoted.all Header.isTextChar = true := by
  have shown (name : String) :
      ((r.headerText? name).getD "-").toList.all Header.isTextChar = true := by
    cases sent : r.headerText? name with
    | none => decide
    | some text => exact Request.all_headerText? sent
  have seam : AccessEntry.seam.all Header.isTextChar = true := by decide
  rw [AccessEntry.quoted, List.all_append, List.all_append, seam]
  simp only [AccessEntry.shownReferer, AccessEntry.shownAgent, accessEntry, shown, Bool.and_self]

/-- **A request can be made to be shown with any two texts.** -/
theorem shown_saying (r : Request) (t : Timing) (response : Response)
    (page : referer.all Header.isTextChar = true) (client : agent.all Header.isTextChar = true) :
    (accessEntry (r.saying referer agent) response t).shownReferer = referer ∧
      (accessEntry (r.saying referer agent) response t).shownAgent = agent := by
  have first : (r.saying referer agent).headerText? "referer" = some (String.ofList referer) :=
    Field.text?_map "referer" page
  have second : (r.saying referer agent).headerText? "user-agent" = some (String.ofList agent) :=
    Field.text?_map "user-agent" client
  simp [AccessEntry.shownReferer, AccessEntry.shownAgent, accessEntry, first, second]

/-- **A combined line tells the request, but for a quote, a blank and a quote among what
the client says of itself and of the page it comes from.**  Whatever two requests that were
read are answered with: if their combined lines are the same then so are their addresses,
times, methods, targets, versions, statuses and lengths.  And everything that a line shows
can be told from it, exactly when the two texts in quotes are apart. -/
theorem combined_alike_iff (accepted : r.Accepted) (response : Response) (t : Timing) :
    (∀ (r' : Request) (response' : Response) (t' : Timing), r'.Accepted →
      (accessEntry r' response' t').combined = (accessEntry r response t).combined →
      AccessEntry.SameFront (accessEntry r' response' t') (accessEntry r response t)) ∧
    ((∀ (r' : Request) (response' : Response) (t' : Timing), r'.Accepted →
      (accessEntry r' response' t').combined = (accessEntry r response t).combined →
      AccessEntry.Alike (accessEntry r' response' t') (accessEntry r response t)) ↔
      AccessEntry.Apart (accessEntry r response t).shownReferer
        (accessEntry r response t).shownAgent) := by
  have delimited := delimited_accessEntry accepted response t
  refine ⟨?_, ?_, ?_⟩
  · intro r' response' t' accepted' same
    exact ((AccessEntry.combined_eq_iff (delimited_accessEntry accepted' _ _) delimited).1 same).1
  · intro told
    apply AccessEntry.apart_iff.2
    intro x y same
    -- the request with what is quoted cut in another place
    have texts := all_quoted r t response
    rw [AccessEntry.quoted, ← same, List.all_append, List.all_append, Bool.and_eq_true,
      Bool.and_eq_true] at texts
    obtain ⟨page, client⟩ := shown_saying r t response texts.1.1 texts.2
    have accepted' : (r.saying x y).Accepted := ⟨accepted.method, accepted.target⟩
    have quoted : (accessEntry (r.saying x y) response t).quoted =
        (accessEntry r response t).quoted := by
      rw [AccessEntry.quoted, page, client, same, AccessEntry.quoted]
    have line := (AccessEntry.combined_eq_iff
      (delimited_accessEntry accepted' response t) delimited).2
      ⟨⟨rfl, rfl, rfl, rfl, rfl, rfl, rfl⟩, quoted⟩
    obtain ⟨-, referer, agent⟩ := told (r.saying x y) response t accepted' line
    rw [page] at referer
    rw [client] at agent
    exact ⟨referer, agent⟩
  · intro apart r' response' t' accepted' same
    obtain ⟨front, quoted⟩ :=
      (AccessEntry.combined_eq_iff (delimited_accessEntry accepted' _ _) delimited).1 same
    obtain ⟨referer, agent⟩ := AccessEntry.apart_iff.1 apart _ _ quoted
    exact ⟨front, referer, agent⟩

namespace Example

/-- A request for the top directory by a client that says so much of itself. -/
def saying (referer agent : String) : Request :=
  (request .get "/").saying referer.toList agent.toList

theorem accepted_saying (referer agent : String) : (saying referer agent).Accepted := by
  have method : Method.ofBytes? (Bytes.ofString "GET") = some .get := by decide +kernel
  have target : Uri.target (Bytes.ofString "/") = .ok "/".toList := by decide +kernel
  exact ⟨⟨_, method⟩, ⟨_, target⟩⟩

end Example

/-- No other request leaves the line of a telephone that follows a link. -/
theorem combined_alike_telephone :
    (Example.saying "http://192.168.1.5:8081/" "Mozilla/5.0 (iPhone)").Accepted ∧
    ∀ (r' : Request) (response' : Response) (t' : Timing), r'.Accepted →
      (accessEntry r' response' t').combined =
        (accessEntry (Example.saying "http://192.168.1.5:8081/" "Mozilla/5.0 (iPhone)")
          { status := 200 } Example.timing).combined →
      AccessEntry.Alike (accessEntry r' response' t')
        (accessEntry (Example.saying "http://192.168.1.5:8081/" "Mozilla/5.0 (iPhone)")
          { status := 200 } Example.timing) := by
  have accepted := Example.accepted_saying "http://192.168.1.5:8081/" "Mozilla/5.0 (iPhone)"
  have apart : AccessEntry.Apart
      (accessEntry (Example.saying "http://192.168.1.5:8081/" "Mozilla/5.0 (iPhone)")
        { status := 200 } Example.timing).shownReferer
      (accessEntry (Example.saying "http://192.168.1.5:8081/" "Mozilla/5.0 (iPhone)")
        { status := 200 } Example.timing).shownAgent := by
    decide +kernel
  exact ⟨accepted, (combined_alike_iff accepted { status := 200 } Example.timing).2.2 apart⟩

/-- **A client can have its line read as that of another**: what one says of the page that
it comes from, another says of itself, and nothing tells the two lines apart. -/
theorem not_combined_alike_of_quotes :
    (Example.saying "a\" \"b" "c").Accepted ∧ (Example.saying "a" "b\" \"c").Accepted ∧
    (accessEntry (Example.saying "a\" \"b" "c") { status := 200 } Example.timing).combined =
      (accessEntry (Example.saying "a" "b\" \"c") { status := 200 } Example.timing).combined ∧
    ¬ AccessEntry.Alike
      (accessEntry (Example.saying "a\" \"b" "c") { status := 200 } Example.timing)
      (accessEntry (Example.saying "a" "b\" \"c") { status := 200 } Example.timing) := by
  refine ⟨Example.accepted_saying _ _, Example.accepted_saying _ _, by decide +kernel, ?_⟩
  intro alike
  have shown : (accessEntry (Example.saying "a\" \"b" "c") { status := 200 }
      Example.timing).shownReferer ≠
      (accessEntry (Example.saying "a" "b\" \"c") { status := 200 }
        Example.timing).shownReferer := by
    decide +kernel
  exact shown alike.referer

end Site

end StaticPreview
