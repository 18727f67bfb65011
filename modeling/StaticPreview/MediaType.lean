/-
# StaticPreview.MediaType -- the media type of a file by its extension

The type of a file is told by the extension of its name alone, in any letter
case; what is not in the table is a plain run of bytes.  Text types say that they
are UTF-8.
-/
import StaticPreview.Path
import StaticPreview.Text.Utf8

namespace StaticPreview.MediaType

/-- The type of a file about which nothing is known. -/
def octets : String := "application/octet-stream"

/-- The extensions that are known, in lower case, with their types. -/
def table : List (String × String) := [
  ("html", "text/html; charset=utf-8"), ("htm", "text/html; charset=utf-8"),
  ("css", "text/css; charset=utf-8"), ("txt", "text/plain; charset=utf-8"),
  ("md", "text/plain; charset=utf-8"), ("csv", "text/csv; charset=utf-8"),
  ("xml", "application/xml"),
  ("js", "text/javascript; charset=utf-8"), ("mjs", "text/javascript; charset=utf-8"),
  ("json", "application/json"), ("map", "application/json"),
  ("webmanifest", "application/manifest+json"), ("wasm", "application/wasm"),
  ("png", "image/png"), ("jpg", "image/jpeg"), ("jpeg", "image/jpeg"), ("gif", "image/gif"),
  ("svg", "image/svg+xml"), ("ico", "image/x-icon"), ("webp", "image/webp"),
  ("avif", "image/avif"),
  ("mp4", "video/mp4"), ("webm", "video/webm"), ("ogv", "video/ogg"), ("mov", "video/quicktime"),
  ("mp3", "audio/mpeg"), ("wav", "audio/wav"), ("ogg", "audio/ogg"), ("m4a", "audio/mp4"),
  ("woff", "font/woff"), ("woff2", "font/woff2"), ("ttf", "font/ttf"), ("otf", "font/otf"),
  ("pdf", "application/pdf"), ("zip", "application/zip")]

/-- The type of files with an extension, which is compared as it stands. -/
def ofExtension (extension : Option String) : String :=
  (extension.bind fun e => List.lookup e table).getD octets

/-- The type of the file that a path names.  An extension that is not text is unknown. -/
def ofPath (p : Bytes) : String :=
  ofExtension ((Path.extension? p).bind fun e => Bytes.toString? (e.map Bytes.lowerAscii))

end StaticPreview.MediaType
