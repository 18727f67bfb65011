/-
# StaticPreview.Address.Parser -- addresses read from their text

`SocketAddr.read?` accepts four decimal bytes without superfluous zeros, or an
address of version 6 in brackets, either with a colon and a port.  An address of
version 6 is up to eight groups of at most four hexadecimal digits; `::` stands
for at least one group of zeros, once, and the last two groups may be written as
four decimal bytes, but not before `::`.  Each reader returns the rest of the
text, and none of them takes more than it needs.
-/
import StaticPreview.Address

namespace StaticPreview

open StaticPreview.Text

namespace Address

/-- A character that has to come next. -/
def char? (c : Char) : List Char → Option (List Char)
  | d :: r => if d = c then some r else none
  | [] => none

/-- The value of a digit in a base up to sixteen. -/
def digitValue? (base : Nat) (c : Char) : Option Nat :=
  let value? : Option Nat :=
    if '0' ≤ c ∧ c ≤ '9' then some (c.toNat - 0x30)
    else if 'a' ≤ c ∧ c ≤ 'f' then some (c.toNat - 0x57)
    else if 'A' ≤ c ∧ c ≤ 'F' then some (c.toNat - 0x37)
    else none
  value?.filter (· < base)

/-- The digits at the front of a text, as values, and the rest. -/
def digits (base : Nat) : List Char → List Nat × List Char
  | [] => ([], [])
  | c :: r =>
      match digitValue? base c with
      | some d => let (ds, rest) := digits base r; (d :: ds, rest)
      | none => ([], c :: r)

/-- A number below `bound`; more than `most` digits are refused, and so is a
superfluous zero in front unless it is allowed. -/
def number? (base bound : Nat) (most : Option Nat) (zeros : Bool) (s : List Char) :
    Option (Nat × List Char) :=
  let (ds, rest) := digits base s
  let n := ds.foldl (fun n d => n * base + d) 0
  if ds = [] ∨ (most.any (· < ds.length)) ∨ (!zeros ∧ ds.head? = some 0 ∧ 1 < ds.length) ∨
      bound ≤ n then none
  else some (n, rest)

/-- A decimal byte. -/
def byte? (s : List Char) : Option (UInt8 × List Char) :=
  (number? 10 256 (some 3) false s).map fun (n, r) => (n.toUInt8, r)

/-- Four decimal bytes with dots between them. -/
def dotted? (s : List Char) : Option ((UInt8 × UInt8 × UInt8 × UInt8) × List Char) := do
  let (a, s) ← byte? s
  let (b, s) ← byte? (← char? '.' s)
  let (c, s) ← byte? (← char? '.' s)
  let (d, s) ← byte? (← char? '.' s)
  some ((a, b, c, d), s)

/-- The text after the colon between two groups; before the first group there is none. -/
def afterColon? (isFirst : Bool) (s : List Char) : Option (List Char) :=
  if isFirst then some s else char? ':' s

/-- A group of an address of version 6. -/
def group? (s : List Char) : Option (UInt16 × List Char) :=
  (number? 16 65536 (some 4) true s).map fun (n, r) => (n.toUInt16, r)

/-- Up to `most` groups, whether the last two were written as decimal bytes, and
the rest. -/
def groups : Nat → Bool → List Char → List UInt16 × Bool × List Char
  | 0, _, s => ([], false, s)
  | most + 1, isFirst, s =>
      let four? := if 0 < most then (afterColon? isFirst s).bind dotted? else none
      match four? with
      | some ((a, b, c, d), r) =>
          ([a.toUInt16 * 256 + b.toUInt16, c.toUInt16 * 256 + d.toUInt16], true, r)
      | none =>
          match (afterColon? isFirst s).bind group? with
          | some (g, r) =>
              let (gs, dotted, rest) := groups most false r
              (g :: gs, dotted, rest)
          | none => ([], false, s)

/-- The address with eight groups. -/
def ofGroups? : List UInt16 → Option IpAddr
  | [a, b, c, d, e, f, g, h] => some (.v6 a b c d e f g h)
  | _ => none

/-- An address of version 6. -/
def v6? (s : List Char) : Option (IpAddr × List Char) := do
  let (head, dotted, s) := groups 8 true s
  if head.length = 8 then (ofGroups? head).map (·, s)
  else if dotted then none
  else
    let s ← char? ':' s
    let s ← char? ':' s
    let (tail, _, s) := groups (7 - head.length) true s
    let zeros := List.replicate (8 - head.length - tail.length) 0
    (ofGroups? (head ++ zeros ++ tail)).map (·, s)

/-- A colon and a port. -/
def port? (s : List Char) : Option (UInt16 × List Char) := do
  let (n, s) ← number? 10 65536 none true (← char? ':' s)
  some (n.toUInt16, s)

/-- A percent sign and a scope, or nothing. -/
def scope (s : List Char) : UInt32 × List Char :=
  match (char? '%' s).bind (number? 10 4294967296 none true) with
  | some (n, r) => (n.toUInt32, r)
  | none => (0, s)

/-- A socket address of version 4. -/
def socketV4? (s : List Char) : Option (SocketAddr × List Char) := do
  let ((a, b, c, d), s) ← dotted? s
  let (port, s) ← port? s
  some ({ ip := .v4 a b c d, port }, s)

/-- A socket address of version 6. -/
def socketV6? (s : List Char) : Option (SocketAddr × List Char) := do
  let s ← char? '[' s
  let (ip, s) ← v6? s
  let (scope, s) := scope s
  let s ← char? ']' s
  let (port, s) ← port? s
  some ({ ip, port, scope }, s)

end Address

/-- The socket address that a whole text stands for. -/
def SocketAddr.read? (s : List Char) : Option SocketAddr :=
  match Address.socketV4? s with
  | some (a, r) => if r = [] then some a else none
  | none =>
      match Address.socketV6? s with
      | some (a, r) => if r = [] then some a else none
      | none => none

end StaticPreview
