/-
# StaticPreview.Header.Preview -- the fields that every response carries

A preview is worth nothing when the browser shows yesterday's file, so every
response forbids caching, and lets tools of any origin read it.  The six fields
replace whatever a response says under their names.
-/
import StaticPreview.Header

namespace StaticPreview.Headers

/-- The mandated names and values. -/
def previewTable : List (String × String) := [
  ("cache-control", "no-cache, no-store, must-revalidate"),
  ("pragma", "no-cache"),
  ("expires", "0"),
  ("access-control-allow-origin", "*"),
  ("access-control-allow-methods", "GET, POST, OPTIONS"),
  ("access-control-allow-headers", "*")]

/-- The mandated fields. -/
def previewFields : List Field := previewTable.map fun (n, v) => ⟨n, Bytes.ofString v⟩

/-- With each of the mandated fields exactly once. -/
def withPreview (hs : Headers) : Headers := previewFields.foldl put hs

end StaticPreview.Headers
