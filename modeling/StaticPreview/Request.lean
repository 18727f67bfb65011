/-
# StaticPreview.Request -- what a client asks for

A request has a method, a target, a version, header fields and the address it
came from.  Its body is never looked at.
-/
import StaticPreview.Address
import StaticPreview.Header

namespace StaticPreview

open StaticPreview.Text

/-- What a client wants done. -/
inductive Method where
  | get
  | head
  | options
  /-- Any other method, by its name. -/
  | other (name : String)
  deriving DecidableEq, Repr

namespace Method

/-- The name of a method. -/
def name : Method → String
  | .get => "GET"
  | .head => "HEAD"
  | .options => "OPTIONS"
  | .other name => name

/-- The method of a name, which is a token. -/
def ofBytes? (s : Bytes) : Option Method :=
  if s = [] ∨ !s.all Header.isTokenByte then none
  else
    let text := Header.asciiText s
    if text = "GET" then some .get
    else if text = "HEAD" then some .head
    else if text = "OPTIONS" then some .options
    else some (.other text)

end Method

/-- The version of the protocol that a request is made in. -/
inductive Version where
  | http09
  | http10
  | http11
  | http2
  | http3
  deriving DecidableEq, Repr

/-- The number of a version. -/
def Version.label : Version → String
  | .http09 => "0.9"
  | .http10 => "1.0"
  | .http11 => "1.1"
  | .http2 => "2"
  | .http3 => "3"

/-- What a client asks for. -/
structure Request where
  method : Method := .get
  /-- The path and the query as they were sent, without a fragment. -/
  target : List Char
  version : Version := .http11
  headers : Headers := {}
  /-- Where the request came from. -/
  peer : SocketAddr
  deriving DecidableEq, Repr

namespace Request

/-- The first field of a name, when its value is a visible text. -/
def headerText? (r : Request) (name : String) : Option String :=
  (r.headers.get? name).bind Field.text?

end Request

end StaticPreview
