/-
# StaticPreview.Wire.Message -- responses as they go over a connection

A response goes out as a status line, its header fields and its body.  Every
connection carries one exchange only, which a client that could expect more is told
(`connection`).  A length is added where the response has none and could have one.
-/
import StaticPreview.Response
import StaticPreview.Wire.Head

namespace StaticPreview.Wire

/-- The words that go with a status. -/
def reason : Nat → String
  | 200 => "OK"
  | 204 => "No Content"
  | 301 => "Moved Permanently"
  | 304 => "Not Modified"
  | 400 => "Bad Request"
  | 404 => "Not Found"
  | 431 => "Request Header Fields Too Large"
  | 501 => "Not Implemented"
  | _ => "Unknown"

/-- Whether a response to a request may have a length that it does not name itself. -/
def takesLength (method : Method) (status : Nat) : Bool :=
  method != .head && status != 204 && status != 304

/-- Header fields as they go out. -/
def fieldLines (fs : List Field) : Bytes :=
  fs.flatMap fun f =>
    Bytes.ofString f.name ++ Bytes.ofString ": " ++ f.value ++ Bytes.ofString "\r\n"

/-- Fields that are added to a response on its way out. -/
def added (version : Version) (lengthMissing : Option Nat) (date : String) : List Field :=
  (lengthMissing.map fun n => (⟨"content-length", Bytes.ofString (numberText n)⟩ : Field)).toList ++
    (if version = .http11 then [⟨"connection", Bytes.ofString "close"⟩] else []) ++
    [⟨"date", Bytes.ofString date⟩]

/-- A whole message. -/
def message (version : Version) (status : Nat) (fs : List Field) (body : Bytes) : Bytes :=
  Bytes.ofString ("HTTP/" ++ version.label ++ " " ++ numberText status ++ " " ++ reason status) ++
    Bytes.ofString "\r\n" ++ fieldLines fs ++ Bytes.ofString "\r\n" ++ body

/-- The response to a request as it goes out. -/
def ofResponse (request : Request) (r : Response) (date : String) : Bytes :=
  let lengthMissing :=
    if (r.headers.get? "content-length").isNone && takesLength request.method r.status then
      some r.body.length
    else none
  message request.version r.status (r.headers.fields ++ added request.version lengthMissing date)
    (if request.method = .head then [] else r.body)

/-- The response to what is no request. -/
def ofRefusal (r : Refusal) (date : String) : Bytes :=
  message .http11 r.status (added .http11 (some 0) date) []

end StaticPreview.Wire
