/-
# StaticPreview.Path -- paths of files as byte strings

A path is a byte string whose components stand between solidi.  Empty components
and single dots (other than a leading one) have no meaning of their own, so two
spellings with the same components name the same file.  These functions look
only at the spelling; what a path leads to is for the file system to say.
-/
import StaticPreview.Pieces
import StaticPreview.Bytes

namespace StaticPreview.Path

/-- What a component of a path asks for. -/
inductive Component where
  /-- The leading solidus of an absolute path. -/
  | root
  /-- The leading dot of a relative path. -/
  | here
  /-- The directory above. -/
  | up
  /-- An entry of the directory reached so far. -/
  | name (entry : Bytes)
  deriving DecidableEq, Repr

/-- The two names that no entry can have. -/
def dotName : Bytes := [Bytes.dot]

@[inherit_doc dotName]
def upName : Bytes := [Bytes.dot, Bytes.dot]

/-- The text of a component. -/
def Component.text : Component → Bytes
  | .root => [Bytes.slash]
  | .here => dotName
  | .up => upName
  | .name entry => entry

/-- Whether a path starts at the top of the file system. -/
def isAbsolute (p : Bytes) : Bool := p.head? == some Bytes.slash

/-- A component read from the text between two solidi, if it means anything. -/
def Component.ofText? (text : Bytes) : Option Component :=
  if text = [] ∨ text = dotName then none
  else if text = upName then some .up
  else some (.name text)

/-- The components of a path. -/
def components (p : Bytes) : List Component :=
  let texts := Pieces.split Bytes.slash p
  let lead : List Component :=
    if isAbsolute p then [.root] else if texts.head? = some dotName then [.here] else []
  lead ++ texts.filterMap Component.ofText?

/-- The path `part` taken from `base`: below it, unless `part` is absolute. -/
def push (base part : Bytes) : Bytes :=
  if isAbsolute part then part
  else if base = [] ∨ base.getLast? = some Bytes.slash then base ++ part
  else base ++ Bytes.slash :: part

/-- Several parts taken one below another. -/
def extend (base : Bytes) (parts : List Bytes) : Bytes := parts.foldl push base

/-- A path with these components, spelt without anything superfluous. -/
def ofComponents (cs : List Component) : Bytes := extend [] (cs.map Component.text)

/-- The last component, when it names an entry. -/
def fileName? (p : Bytes) : Option Bytes :=
  match (components p).getLast? with
  | some (.name entry) => some entry
  | _ => none

/-- A name cut at its last dot: the stem and what follows the dot.  A name whose
only dot is its first byte has no extension. -/
def cutName (entry : Bytes) : Bytes × Option Bytes :=
  match Pieces.cutAt Bytes.dot entry.reverse with
  | (_, none) => (entry, none)
  | (_, some []) => (entry, none)
  | (after, some before) => (before.reverse, some after.reverse)

/-- The extension of the last component. -/
def extension? (p : Bytes) : Option Bytes := (fileName? p).bind fun entry => (cutName entry).2

/-- The path without its last component; the top and the empty path have none. -/
def parent? (p : Bytes) : Option Bytes :=
  match (components p).reverse with
  | [] => none
  | .root :: _ => none
  | _ :: rest => some (ofComponents rest.reverse)

/-- The path with its last component renamed to `entry`; a path that ends in no
name is left as it is. -/
def withFileName (p entry : Bytes) : Bytes :=
  match (components p).reverse with
  | .name _ :: rest => push (ofComponents rest.reverse) entry
  | _ => p

end StaticPreview.Path
