/-
# StaticPreview.Proofs.AccessLine.Json -- what a line in JSON says

An entry is one JSON object of eleven members, null for a text that there is none of
(`AccessEntry.asJson`).  Each member is written so that it reads back, whatever its value
(`textMember`, `numberMember`, `optionMember`), and the line is these members one behind the
other (`toList_json`), so a reader of JSON texts finds exactly them.  From the members the
entry comes together again (`ofJson?`), but for a time whose distance from UTC is not one of
whole minutes, which is written rounded.
-/
import StaticPreview.Proofs.AccessLine
import StaticPreview.Proofs.Text.Json
import StaticPreview.Proofs.Time.IsoStamp

namespace StaticPreview

open StaticPreview.Text

namespace Text.Json

/-- A text, or null where there is none. -/
def ofOption : Option String → Json
  | some s => .text s
  | none => .null

/-- What a member of an object says. -/
def member? (name : String) : Json → Option Json
  | .object members => members.lookup name
  | _ => none

/-- The text that a value is. -/
def text? : Json → Option String
  | .text s => some s
  | _ => none

/-- The text that a value is, or none where it is null. -/
def textOrNull? : Json → Option (Option String)
  | .text s => some (some s)
  | .null => some none
  | _ => none

/-- The natural number that a value is written as. -/
def natural? : Json → Option Nat
  | .number (.ofNat n) 0 => some n
  | _ => none

end Text.Json

namespace AccessEntry

/-! ## Entries as values -/

/-- The entry as a JSON value. -/
def asJson (e : AccessEntry) : Json := .object [
  ("body_bytes", .number e.bodyBytes 0),
  ("http_version", .text e.httpVersion),
  ("method", .text e.method),
  ("path", .text e.path),
  ("query", .ofOption e.query),
  ("referer", .ofOption e.referer),
  ("remote_addr", .text e.remoteAddr),
  ("request_time_us", .number e.micros 0),
  ("status", .number e.status 0),
  ("time", .text e.timeIso),
  ("user_agent", .ofOption e.userAgent)]

/-- The entry that a JSON value says. -/
def ofJson? (v : Json) : Option AccessEntry := do
  let bodyBytes ← (v.member? "body_bytes").bind Json.natural?
  let httpVersion ← (v.member? "http_version").bind Json.text?
  let method ← (v.member? "method").bind Json.text?
  let path ← (v.member? "path").bind Json.text?
  let query ← (v.member? "query").bind Json.textOrNull?
  let referer ← (v.member? "referer").bind Json.textOrNull?
  let remoteAddr ← (v.member? "remote_addr").bind Json.text?
  let micros ← (v.member? "request_time_us").bind Json.natural?
  let status ← (v.member? "status").bind Json.natural?
  let written ← (v.member? "time").bind Json.text?
  let time ← Time.Stamp.iso? written.toList
  let userAgent ← (v.member? "user_agent").bind Json.textOrNull?
  pure { remoteAddr, time, method, path, query, httpVersion, status, bodyBytes, referer, userAgent,
         micros }

/-- The value of an entry says the entry, with the time as it is shown. -/
theorem ofJson?_asJson (e : AccessEntry) :
    ofJson? e.asJson = some { e with time := e.time.shown } := by
  have option (s : Option String) : (Json.ofOption s).textOrNull? = some s := by
    cases s <;> rfl
  have number (n : Nat) : (Json.number n 0).natural? = some n := rfl
  have time : Time.Stamp.iso? e.timeIso.toList = some e.time.shown := by
    rw [timeIso, String.toList_ofList, Time.Stamp.iso?_isoText]
  simp [ofJson?, asJson, Json.member?, List.lookup_cons, Json.text?, option, number, time]

/-! ## The line -/

/-- A member that is a number. -/
def numberMember (name : String) (n : Nat) : Json.Member where
  name := name
  raw := (decimal n).toList
  value := .number n 0
  atom := by
    rw [decimal, String.toList_ofList]
    exact Json.atom_number n

/-- A member that is a text. -/
def textMember (name s : String) : Json.Member where
  name := name
  raw := (jsonText s).toList
  value := .text s
  atom := by
    rw [jsonText, String.toList_ofList]
    exact Json.atom_text s

/-- A member that is a text or null. -/
def optionMember (name : String) (s : Option String) : Json.Member where
  name := name
  raw := (jsonOption s).toList
  value := .ofOption s
  atom := by
    cases s with
    | none => exact Json.atom_null
    | some s => exact (textMember name s).atom

/-- The members behind the first. -/
def otherMembers (e : AccessEntry) : List Json.Member := [
  textMember "http_version" e.httpVersion,
  textMember "method" e.method,
  textMember "path" e.path,
  optionMember "query" e.query,
  optionMember "referer" e.referer,
  textMember "remote_addr" e.remoteAddr,
  numberMember "request_time_us" e.micros,
  numberMember "status" e.status,
  textMember "time" e.timeIso,
  optionMember "user_agent" e.userAgent]

/-- The line is an object of these members. -/
theorem toList_json (e : AccessEntry) :
    e.json.toList = Json.writeObject (numberMember "body_bytes" e.bodyBytes) e.otherMembers := by
  have name (s : String) : (jsonText s).toList = JsonString.write s.toList := by
    rw [jsonText, String.toList_ofList]
  simp [json, jsonFields, Json.writeObject, Json.Member.write, otherMembers, numberMember,
    textMember, optionMember, name]

/-- **A line in JSON says the entry.**  Whatever the texts and the numbers of the entry are, no
control stands in the line, it reads as one object whose members are those of the entry and
no others, and these say the entry. -/
theorem json_reads_back (e : AccessEntry) :
    JsonString.Clear (e.line "json") ∧ Json.read? (e.line "json").toList = some e.asJson ∧
      ofJson? e.asJson = some { e with time := e.time.shown } := by
  have line : e.line "json" = e.json := rfl
  refine ⟨?_, ?_, ofJson?_asJson e⟩
  · rw [line]
    exact clear_json e
  · rw [line, toList_json, Json.read?_object]
    rfl

end AccessEntry

end StaticPreview
