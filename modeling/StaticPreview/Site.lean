/-
# StaticPreview.Site -- a directory that is served, and how requests are answered

A site is a directory, resolved once, with the settings it is served under.
`Site.handle` answers a request from the file system as it is at that moment, and
says what is to be written down:

* a target that tools ask for on their own gets an empty answer and is not written
  down (`Settings.isProbe`);
* a GET or HEAD gets what `Site.serve` finds below the root;
* OPTIONS gets what may be asked; any other method is refused with a warning.

A file's time that has no date ends the whole run: `OutsideCalendar` is its cause.
-/
import StaticPreview.AccessLine
import StaticPreview.Freshness
import StaticPreview.Listing
import StaticPreview.MediaType
import StaticPreview.Request
import StaticPreview.Response
import StaticPreview.Settings
import StaticPreview.Target.Resolve

namespace StaticPreview

open Time

/-- A directory that is served, and how. -/
structure Site where
  settings : Settings
  /-- Where the directory stands. -/
  root : Location
  deriving DecidableEq, Repr

namespace Site

/-- What is wrong with a root that can be reached but is no directory. -/
def rootIsNoDirectory : IoError := .text "not a directory"

/-- The site that settings describe, if its directory is there. -/
def «open» (fs : FileSystem) (settings : Settings) : Except StartupError Site :=
  let fail (e : IoError) : StartupError := .root settings.server.root e
  match fs.canonical (Bytes.ofString settings.server.root) with
  | .error e => .error (fail e)
  | .ok root =>
      if fs.leadsToDirectory root.path then .ok { settings, root }
      else .error (fail rootIsNoDirectory)

/-- The path of the directory. -/
def rootPath (site : Site) : Bytes := site.root.path

/-- Whether what a path leads to is the root or stands below it. -/
def contains (site : Site) (fs : FileSystem) (p : Bytes) : Bool :=
  match fs.canonical p with
  | .ok l => site.root.isPrefixOf l
  | .error _ => false

/-- What is asked for with GET or HEAD. -/
structure Fetch where
  target : List Char
  isHead : Bool := false
  conditions : Conditions := {}
  deriving DecidableEq, Repr

/-- That there is no such file, with a notice of why. -/
def notFoundBecause (notice : Notice) : Reply :=
  { Reply.notFound with notices := Reply.notFound.notices ++ [notice] }

/-- The answer that gives a file, of which the entry is known already. -/
def serveFile (fs : FileSystem) (f : Fetch) (p : Bytes) (entry : Entry) :
    Except OutsideCalendar Reply := do
  let date ← entry.modified.httpDate
  if ← f.conditions.current entry.modified then
    return Reply.notModified date
  match fs.read p with
  | .ok content => return Reply.file content (MediaType.ofPath p) (some date) f.isHead
  | .error e =>
      return notFoundBecause
        (.error ("Failed to read file '" ++ p.toStringLossy ++ "': " ++ e.message))

/-- The first of the index files that is a regular file, with its entry. -/
def indexFile? (fs : FileSystem) (directory : Bytes) : List String → Option (Bytes × Entry)
  | [] => none
  | name :: names =>
      let p := Path.push directory (Bytes.ofString name)
      match fs.stat p with
      | .ok e => if e.node.isFile then some (p, e) else indexFile? fs directory names
      | .error _ => indexFile? fs directory names

/-- Where to look for a directory that was asked for without its solidus. -/
def withSolidus (target : List Char) : List Char :=
  let (path, query) := Target.split target
  Target.unsplit (path ++ ['/']) query

/-- The answer that gives a directory. -/
def serveDirectory (site : Site) (fs : FileSystem) (f : Fetch) (r : Target.Resolved) :
    Except OutsideCalendar Reply :=
  if !r.trailingSlash then .ok (Reply.redirect (String.ofList (withSolidus f.target)))
  else
    match indexFile? fs r.fsPath site.settings.preview.indexFiles with
    | some (p, e) => serveFile fs f p e
    | none =>
        if !site.settings.preview.directoryListing then .ok Reply.notFound
        else
          match Listing.render fs r.fsPath r.urlPath with
          | .ok page => .ok (Reply.html (String.ofList page) f.isHead)
          | .error e =>
              .ok (notFoundBecause (.warning
                ("Cannot list directory '" ++ r.fsPath.toStringLossy ++ "': " ++ e.message)))

/-- The answer to GET or HEAD. -/
def serve (site : Site) (fs : FileSystem) (f : Fetch) : Except OutsideCalendar Reply :=
  let r := Target.resolve site.rootPath f.target
  match fs.stat r.fsPath with
  | .error _ => .ok Reply.notFound
  | .ok entry =>
      if !site.contains fs r.fsPath then
        .ok (notFoundBecause
          (.warning ("Path outside serving root blocked: " ++ String.ofList f.target)))
      else if entry.node.isDirectory then site.serveDirectory fs f r
      else if r.trailingSlash || r.urlPath.getLast? = some '/' then .ok Reply.notFound
      else serveFile fs f r.fsPath entry

/-! ## Whole requests -/

/-- What a GET or HEAD request asks for. -/
def Fetch.ofRequest (r : Request) (isHead : Bool) : Fetch where
  target := r.target
  isHead := isHead
  conditions :=
    { modifiedSince := r.headerText? "if-modified-since"
      noneMatch := r.headerText? "if-none-match" }

/-- The answer to a request that is not a probe, without the mandated fields. -/
def dispatch (site : Site) (fs : FileSystem) (r : Request) : Except OutsideCalendar Reply :=
  match r.method with
  | .get => site.serve fs (Fetch.ofRequest r false)
  | .head => site.serve fs (Fetch.ofRequest r true)
  | .options => .ok Reply.options
  | .other name =>
      let notice : Notice :=
        .warning ("Unsupported method: " ++ name ++ " " ++ String.ofList r.target)
      .ok { Reply.notImplemented with notices := notice :: Reply.notImplemented.notices }

/-- When a request was answered and how long that took. -/
structure Timing where
  time : Stamp
  /-- In microseconds. -/
  micros : Nat := 0
  deriving DecidableEq, Repr

/-- What is known of a request and the response to it. -/
def accessEntry (r : Request) (response : Response) (t : Timing) : AccessEntry :=
  let (path, query) := Target.split r.target
  { remoteAddr := String.ofList r.peer.ip.text
    time := t.time
    method := r.method.name
    path := String.ofList path
    query := query.map String.ofList
    httpVersion := r.version.label
    status := response.status
    bodyBytes := response.body.length
    referer := r.headerText? "referer"
    userAgent := r.headerText? "user-agent"
    micros := t.micros }

/-- A response with what is written down about the exchange. -/
structure Exchange where
  response : Response
  journal : Journal := {}
  deriving DecidableEq, Repr

/-- The answer to a request. -/
def handle (site : Site) (fs : FileSystem) (r : Request) (t : Timing) :
    Except OutsideCalendar Exchange :=
  if site.settings.isProbe r.target then
    let reply := Reply.noContent.withPreview
    .ok { response := reply.response, journal := Journal.ofNotices reply.notices }
  else do
    let reply := (← site.dispatch fs r).withPreview
    let access :=
      if site.settings.logging.accessLog then
        [(accessEntry r reply.response t).line site.settings.logging.accessLogFormat]
      else []
    .ok {
      response := reply.response
      journal := Journal.ofNotices reply.notices ++ Journal.ofAccess access }

end Site

end StaticPreview
