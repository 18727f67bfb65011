/-
# StaticPreview.AccessLine -- one request as a line of the access log

An entry holds what is known of a request and its response.  It is written in the
common or the combined log format, as a JSON object, or after a pattern in which
variables stand for the parts of the entry.

* `common`: address, time, request line, status and length of the body;
* `combined`: the same, then the referring page and the client in quotes;
* `json`: one object whose keys are in alphabetical order, absent values null;
* any other text is a pattern (`StaticPreview.AccessLine.Pattern`).
-/
import StaticPreview.AccessLine.Pattern
import StaticPreview.Text.JsonString
import StaticPreview.Time.Stamp

namespace StaticPreview

open StaticPreview.Text

/-- What is known of a request and its response. -/
structure AccessEntry where
  /-- The address of the client. -/
  remoteAddr : String
  /-- When the request was served. -/
  time : Time.Stamp
  method : String
  path : String
  query : Option String := none
  httpVersion : String := "1.1"
  status : Nat := 200
  bodyBytes : Nat := 0
  referer : Option String := none
  userAgent : Option String := none
  /-- How long it took, in microseconds. -/
  micros : Nat := 0
  deriving DecidableEq, Repr

namespace AccessEntry

/-- The path with its query, as they were requested. -/
def requestUri (e : AccessEntry) : String :=
  match e.query with
  | none => e.path
  | some q => e.path ++ "?" ++ q

/-- The request line. -/
def requestLine (e : AccessEntry) : String :=
  e.method ++ " " ++ e.requestUri ++ " HTTP/" ++ e.httpVersion

/-- The time in the form of the common log format. -/
def timeLocal (e : AccessEntry) : String := String.ofList e.time.logText

/-- The time in the form of ISO 8601. -/
def timeIso (e : AccessEntry) : String := String.ofList e.time.isoText

/-- A number in decimal. -/
def decimal (n : Nat) : String := String.ofList (Decimal.digits n)

/-- The line in the common log format. -/
def common (e : AccessEntry) : String :=
  e.remoteAddr ++ " - - [" ++ e.timeLocal ++ "] \"" ++ e.requestLine ++ "\" " ++
    decimal e.status ++ " " ++ decimal e.bodyBytes

/-- The line in the combined log format. -/
def combined (e : AccessEntry) : String :=
  e.common ++ " \"" ++ e.referer.getD "-" ++ "\" \"" ++ e.userAgent.getD "-" ++ "\""

/-- A text as a JSON string. -/
def jsonText (s : String) : String := String.ofList (JsonString.write s.toList)

/-- A text as a JSON string, or null. -/
def jsonOption : Option String → String
  | some s => jsonText s
  | none => "null"

/-- The keys of the JSON object and their values as JSON texts. -/
def jsonFields (e : AccessEntry) : List (String × String) := [
  ("body_bytes", decimal e.bodyBytes),
  ("http_version", jsonText e.httpVersion),
  ("method", jsonText e.method),
  ("path", jsonText e.path),
  ("query", jsonOption e.query),
  ("referer", jsonOption e.referer),
  ("remote_addr", jsonText e.remoteAddr),
  ("request_time_us", decimal e.micros),
  ("status", decimal e.status),
  ("time", jsonText e.timeIso),
  ("user_agent", jsonOption e.userAgent)]

/-- The line as a JSON object. -/
def json (e : AccessEntry) : String :=
  "\x7b" ++ String.intercalate "," (e.jsonFields.map fun (k, v) => jsonText k ++ ":" ++ v) ++
    "\x7d"

/-- The variables of patterns and the texts they stand for, in the order in which
they are put in: a name is put in before every other that begins it. -/
def bindings (e : AccessEntry) : List (String × String) := [
  ("$remote_addr", e.remoteAddr),
  ("$time_local", e.timeLocal),
  ("$time_iso8601", e.timeIso),
  ("$request_time", String.ofList (AccessLine.secondsText e.micros)),
  ("$request_method", e.method),
  ("$request_uri", e.requestUri),
  ("$request", e.requestLine),
  ("$status", decimal e.status),
  ("$body_bytes_sent", decimal e.bodyBytes),
  ("$http_referer", e.referer.getD "-"),
  ("$http_user_agent", e.userAgent.getD "-")]

/-- The line after a pattern. -/
def custom (e : AccessEntry) (pattern : String) : String :=
  String.ofList (AccessLine.substitute
    (e.bindings.map fun (name, text) => (name.toList, text.toList)) pattern.toList)

/-- The line in a format, without the line end. -/
def line (e : AccessEntry) (format : String) : String :=
  if format = "combined" then e.combined
  else if format = "common" then e.common
  else if format = "json" then e.json
  else e.custom format

end AccessEntry

end StaticPreview
