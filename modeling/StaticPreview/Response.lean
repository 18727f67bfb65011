/-
# StaticPreview.Response -- the responses of the preview server

One builder for each thing the server has to say.  A builder names its fields;
`Response.build` checks them.  A field that is refused does not stop the
exchange: the reply is then a success without fields, and one notice tells of it
(`Reply.ofBuild`).  It is empty, but for the text of a failure.  The mandated fields are
added later, in one place.

For a HEAD request the builders of a success leave the body out and keep its
length.
-/
import StaticPreview.Header.Preview
import StaticPreview.Journal
import StaticPreview.Text.Decimal

namespace StaticPreview

/-- A response. -/
structure Response where
  status : Nat
  headers : Headers := {}
  body : Bytes := []
  deriving DecidableEq, Repr

/-- A response with the notices that it gave rise to. -/
structure Reply where
  response : Response
  notices : List Notice := []
  deriving DecidableEq, Repr

/-- The text of a number. -/
def numberText (n : Nat) : String := String.ofList (Text.Decimal.digits n)

namespace Response

/-- Fields from names and texts, in order; the first that is refused is the answer. -/
def fieldsOf : List (String × String) → Except Header.Refusal (List Field)
  | [] => .ok []
  | (name, value) :: rest => do
      let f ← Field.ofText name value
      let fs ← fieldsOf rest
      .ok (f :: fs)

/-- A response with these fields, if none of them is refused. -/
def build (status : Nat) (fields : List (String × String)) (body : Bytes) :
    Except Header.Refusal Response := do
  let fs ← fieldsOf fields
  .ok { status, headers := ⟨fs⟩, body }

end Response

namespace Reply

/-- A built response, or a success with nothing but a spare body, and a notice that names what
was built. -/
def ofBuild (label : String) (built : Except Header.Refusal Response) (spare : Bytes := []) :
    Reply :=
  match built with
  | .ok response => { response }
  | .error refusal =>
      { response := { status := 200, body := spare }
        notices := [.error ("Failed to build " ++ label ++ " response: " ++ refusal.message)] }

/-- Nothing to say. -/
def noContent : Reply := { response := { status := 204 } }

/-- What may be asked here. -/
def options : Reply :=
  ofBuild "OPTIONS"
    (Response.build 204 [("Allow", "GET, HEAD, OPTIONS"), ("Access-Control-Max-Age", "86400")] [])

/-- Look elsewhere. -/
def redirect (location : String) : Reply :=
  ofBuild "301" (Response.build 301 [("Location", location), ("Content-Length", "0")] [])

/-- The client's copy is current. -/
def notModified (lastModified : String) : Reply :=
  ofBuild "304" (Response.build 304 [("Last-Modified", lastModified)] [])

/-- A failure with a text that says so, even where its fields are refused. -/
def failure (status : Nat) (text : String) : Reply :=
  let body := Bytes.ofString text
  ofBuild text
    (Response.build status
      [("Content-Type", "text/plain; charset=utf-8"), ("Content-Length", numberText body.length)]
      body)
    body

/-- There is no such file. -/
def notFound : Reply := failure 404 "404 Not Found"

/-- There is no such method. -/
def notImplemented : Reply := failure 501 "501 Not Implemented"

/-- A page. -/
def html (content : String) (isHead : Bool) : Reply :=
  let data := Bytes.ofString content
  ofBuild "HTML"
    (Response.build 200
      [("Content-Type", "text/html; charset=utf-8"), ("Content-Length", numberText data.length)]
      (if isHead then [] else data))

/-- A file. -/
def file (data : Bytes) (contentType : String) (lastModified : Option String) (isHead : Bool) :
    Reply :=
  let dated := lastModified.toList.map fun d => ("Last-Modified", d)
  ofBuild "200"
    (Response.build 200
      ([("Content-Type", contentType), ("Content-Length", numberText data.length)] ++ dated)
      (if isHead then [] else data))

/-- The reply with the mandated fields on its response. -/
def withPreview (r : Reply) : Reply :=
  { r with response := { r.response with headers := r.response.headers.withPreview } }

end Reply

end StaticPreview
