/-
# StaticPreview.Wire.Head -- the head of a request as it comes over a connection

The head of a request is a request line and header fields, one a line, up to an empty
line.  It comes in pieces, so what has come so far can be three things (`Reading`): a
whole head, the front of one, or no head whatever may follow.

What is refused is told apart only as far as it is written down: a line that cannot be
a request line is the fault of its method when it does not even start like one, and of
its address otherwise.
-/
import StaticPreview.Request
import StaticPreview.Request.Uri
import StaticPreview.Text.Decimal

namespace StaticPreview.Wire

open StaticPreview.Text

/-- Why bytes are not the head of a request. -/
inductive Refusal where
  | method
  | uri
  | version
  | line
  | length
  | tooLarge
  deriving DecidableEq, Repr

namespace Refusal

/-- What a refusal is called in the log. -/
def description : Refusal → String
  | .method => "hyper::Error(Parse(Method))"
  | .uri => "hyper::Error(Parse(Uri))"
  | .version => "hyper::Error(Parse(Version))"
  | .line => "hyper::Error(Parse(Header(Token)))"
  | .length => "hyper::Error(Parse(Header(ContentLengthInvalid)))"
  | .tooLarge => "hyper::Error(Parse(TooLarge))"

/-- The status of the response to what is refused. -/
def status : Refusal → Nat
  | .tooLarge => 431
  | _ => 400

end Refusal

/-- What a client that breaks off within a head is called in the log. -/
def brokenOff : String := "hyper::Error(IncompleteMessage)"

/-- What bytes are so far. -/
inductive Reading (α : Type) where
  /-- The front of what is read. -/
  | more
  /-- Never what is read. -/
  | refused (r : Refusal)
  /-- What is read, and what follows it. -/
  | done (a : α) (rest : Bytes)
  deriving DecidableEq, Repr

/-- What is read after something else. -/
def Reading.bind {α β : Type} (r : Reading α) (f : α → Bytes → Reading β) : Reading β :=
  match r with
  | .more => .more
  | .refused r => .refused r
  | .done a rest => f a rest

/-! ## Lines -/

/-- The bytes that end a line. -/
def carriageReturn : UInt8 := 0x0D

@[inherit_doc carriageReturn]
def lineFeed : UInt8 := 0x0A

/-- The end of a line; its first byte may be missing. -/
def lineEnd : Bytes → Reading Unit
  | [] => .more
  | b :: rest =>
      if b = lineFeed then .done () rest
      else if b = carriageReturn then
        match rest with
        | [] => .more
        | c :: rest => if c = lineFeed then .done () rest else .refused .line
      else .refused .line

/-- Whether a line ends here. -/
def isLineEnd (b : UInt8) : Bool := b == carriageReturn || b == lineFeed

/-- The rest behind empty lines. -/
def skipEmptyLines : Bytes → Reading Unit
  | [] => .more
  | b :: rest =>
      if b = lineFeed then skipEmptyLines rest
      else if b = carriageReturn then
        match rest with
        | [] => .more
        | c :: rest => if c = lineFeed then skipEmptyLines rest else .refused .line
      else .done () (b :: rest)

/-! ## The request line -/

/-- The byte between the parts of a request line. -/
def space : UInt8 := 0x20

/-- Bytes of a kind up to the next space; there must be one at least. -/
def wordOf (p : UInt8 → Bool) (fault : Refusal) (s : Bytes) : Reading Bytes :=
  let found := s.takeWhile p
  match s.drop found.length with
  | [] => .more
  | b :: rest => if b = space ∧ found ≠ [] then .done found rest else .refused fault

/-- Whether a byte may stand in the address of a request line. -/
def isAddressByte (b : UInt8) : Bool := space < b && b != 0x7F

/-- The versions as they are written. -/
def versions : List (String × Version) := [("HTTP/1.0", .http10), ("HTTP/1.1", .http11)]

/-- The version at the end of a request line. -/
def version (s : Bytes) : Reading Version :=
  let text := s.take 8
  if text.length < 8 then
    if versions.any fun v => text.isPrefixOf (Bytes.ofString v.1) then .more else .refused .version
  else
    match versions.find? fun v => Bytes.ofString v.1 = text with
    | some v => .done v.2 (s.drop 8)
    | none => .refused .version

/-! ## Header fields -/

/-- The greatest number of header fields. -/
def maxFields : Nat := 100

/-- Whether a byte is a blank. -/
def isBlank (b : UInt8) : Bool := b == space || b == 0x09

/-- A header field with its line, without the blanks around its value. -/
def field (s : Bytes) : Reading Field :=
  let name := s.takeWhile Header.isTokenByte
  match s.drop name.length with
  | [] => .more
  | colon :: rest =>
      if colon ≠ 0x3A ∨ name = [] then .refused .line
      else
        let value := rest.takeWhile Header.isValueByte
        (lineEnd (rest.drop value.length)).bind fun () rest =>
          let value := ((value.dropWhile isBlank).reverse.dropWhile isBlank).reverse
          .done { name := Header.asciiText (name.map Bytes.lowerAscii), value } rest

/-- Header fields up to the empty line behind them, at most so many. -/
def fields : Nat → Bytes → Reading (List Field)
  | allowed, s =>
      match s with
      | [] => .more
      | b :: _ =>
          if isLineEnd b then (lineEnd s).bind fun () rest => .done [] rest
          else
            match allowed with
            | 0 => .refused .tooLarge
            | allowed + 1 =>
                (field s).bind fun f rest =>
                  (fields allowed rest).bind fun fs rest => .done (f :: fs) rest

/-- The greatest length of a body. -/
def maxLength : Nat := 18446744073709551614

/-- Whether a value is the length of a body. -/
def isLength (value : Bytes) : Bool :=
  value ≠ [] && value.all Bytes.isDigit &&
    Decimal.value (Header.asciiText value).toList ≤ maxLength

/-- Whether the lengths that a head gives are lengths, and all the same one. -/
def agree (fs : List Field) : Bool :=
  let lengths := (Headers.values ⟨fs⟩ "content-length")
  lengths.all isLength &&
    lengths.all fun a => lengths.all fun b =>
      Decimal.value (Header.asciiText a).toList = Decimal.value (Header.asciiText b).toList

/-! ## The whole head -/

/-- What the bytes that have come from a client so far are. -/
def readHead (peer : SocketAddr) (s : Bytes) : Reading Request :=
  let starts : Bool := s.head?.any Header.isTokenByte
  let fault : Refusal := if starts then .uri else .method
  (skipEmptyLines s).bind fun () s =>
  (wordOf Header.isTokenByte fault s).bind fun name s =>
  (wordOf isAddressByte fault s).bind fun address s =>
  (version s).bind fun version s =>
  (lineEnd s).bind fun () s =>
  (fields maxFields s).bind fun fs s =>
    match Method.ofBytes? name, Uri.target address with
    | none, _ => .refused .method
    | _, .error _ => .refused .uri
    | some method, .ok target =>
        if agree fs then .done { method, target, version, headers := ⟨fs⟩, peer } s
        else .refused .length

end StaticPreview.Wire
