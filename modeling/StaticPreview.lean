import StaticPreview.AccessLine
import StaticPreview.AccessLine.Pattern
import StaticPreview.Address
import StaticPreview.Address.Parser
import StaticPreview.Bytes
import StaticPreview.CommandLine
import StaticPreview.Disk
import StaticPreview.FileSystem
import StaticPreview.FileSystem.Change
import StaticPreview.FileSystem.Walk
import StaticPreview.Freshness
import StaticPreview.Header
import StaticPreview.Header.Preview
import StaticPreview.IoError
import StaticPreview.Journal
import StaticPreview.Lifecycle
import StaticPreview.Listing
import StaticPreview.LogFiles
import StaticPreview.Main
import StaticPreview.MediaType
import StaticPreview.Number.Binary64
import StaticPreview.Number.Binary64.Reader
import StaticPreview.Number.Integer64
import StaticPreview.Path
import StaticPreview.Pieces
import StaticPreview.Program
import StaticPreview.Proofs.FileSystem.Walk
import StaticPreview.Proofs.Header.Preview
import StaticPreview.Proofs.Outcome
import StaticPreview.Proofs.FileSystem.Listed
import StaticPreview.Proofs.Listing.Follow
import StaticPreview.Proofs.Path
import StaticPreview.Proofs.Pieces
import StaticPreview.Proofs.Response
import StaticPreview.Proofs.Site.Route
import StaticPreview.Proofs.Target.Resolve
import StaticPreview.Proofs.Target.Slash
import StaticPreview.Proofs.Text.Lossy
import StaticPreview.Proofs.Text.Utf8
import StaticPreview.Request
import StaticPreview.Request.Uri
import StaticPreview.Response
import StaticPreview.Server
import StaticPreview.Serving
import StaticPreview.Settings
import StaticPreview.Settings.Decode
import StaticPreview.Settings.Environment
import StaticPreview.Settings.Fault
import StaticPreview.Settings.Fields
import StaticPreview.Settings.File
import StaticPreview.Settings.File.Ini
import StaticPreview.Settings.File.Json
import StaticPreview.Settings.File.Json5
import StaticPreview.Settings.File.Ron
import StaticPreview.Settings.File.Toml
import StaticPreview.Settings.File.Toml.Tables
import StaticPreview.Settings.File.Yaml
import StaticPreview.Settings.File.Yaml.BlockText
import StaticPreview.Settings.File.Yaml.Flow
import StaticPreview.Settings.File.Yaml.Node
import StaticPreview.Settings.File.Yaml.Scalar
import StaticPreview.Settings.Key
import StaticPreview.Settings.Load
import StaticPreview.Settings.Value
import StaticPreview.Shutdown
import StaticPreview.Site
import StaticPreview.StartupError
import StaticPreview.Target
import StaticPreview.Target.Percent
import StaticPreview.Target.Resolve
import StaticPreview.Text.Blank
import StaticPreview.Text.Decimal
import StaticPreview.Text.JsonString
import StaticPreview.Text.Lowercase
import StaticPreview.Text.Lowercase.Table
import StaticPreview.Text.Quoted
import StaticPreview.Text.Quoted.Table
import StaticPreview.Text.Radix
import StaticPreview.Text.Range
import StaticPreview.Text.Reader
import StaticPreview.Text.Utf8
import StaticPreview.Time.Calendar
import StaticPreview.Time.HttpDate
import StaticPreview.Time.Instant
import StaticPreview.Time.MailDate
import StaticPreview.Time.Stamp
import StaticPreview.Wire.Head
import StaticPreview.Wire.Message
import StaticPreview.Proofs.Site.Handle
import StaticPreview.Proofs.Site.Containment
import StaticPreview.Proofs.Site.Redirect
import StaticPreview.Proofs.Text.Decimal
import StaticPreview.Proofs.Time.Calendar
import StaticPreview.Proofs.Time.MailDate
import StaticPreview.Proofs.Target.Percent
import StaticPreview.Proofs.Target.Link
import StaticPreview.Proofs.Request.Uri
import StaticPreview.Proofs.Header.Visible
import StaticPreview.Proofs.Freshness
import StaticPreview.Proofs.Reply
import StaticPreview.Proofs.Site.File
import StaticPreview.Proofs.Site.Reachable
import StaticPreview.Proofs.Site.Revalidation
import StaticPreview.Proofs.Site.Head
import StaticPreview.Proofs.Site.Conditional
import StaticPreview.Proofs.Site.Convergence
import StaticPreview.Proofs.Site.Links
import StaticPreview.Proofs.Text.Reader
import StaticPreview.Proofs.FileSystem.Order
import StaticPreview.Proofs.Listing.Order
import StaticPreview.Proofs.Listing.Escape
import StaticPreview.Proofs.Listing.Markup
import StaticPreview.Proofs.Listing.Faithful
import StaticPreview.Proofs.Settings.Layer
import StaticPreview.Proofs.Settings.Merge
import StaticPreview.Proofs.Settings.Decode
import StaticPreview.Proofs.Settings.Environment
import StaticPreview.Proofs.Settings.Value
import StaticPreview.Proofs.Settings.Layered
import StaticPreview.Proofs.Number.Integer64
import StaticPreview.Proofs.Site.Probe
import StaticPreview.Proofs.Text.Utf8.Exact
import StaticPreview.Proofs.Request.Accepted
import StaticPreview.Proofs.Address
import StaticPreview.Proofs.AccessLine
import StaticPreview.Proofs.Site.Answered
import StaticPreview.Proofs.Site.Logged
import StaticPreview.Proofs.Site.WellFormed
import StaticPreview.Proofs.Serving.Turns
import StaticPreview.Proofs.Serving.Waits
import StaticPreview.Proofs.Server
import StaticPreview.Proofs.Settings.Reading
import StaticPreview.Proofs.Target.Escapes
import StaticPreview.Proofs.Settings.Apart
import StaticPreview.Proofs.Number.Binary64
import StaticPreview.Proofs.Settings.Said
import StaticPreview.Proofs.Settings.Verbatim
import StaticPreview.Proofs.Settings.Port
import StaticPreview.Proofs.Settings.Heeded
import StaticPreview.Proofs.Site.Tags
import StaticPreview.Proofs.AccessLine.Combined
import StaticPreview.Proofs.Site.Ambiguity
import StaticPreview.Proofs.Text.Json
import StaticPreview.Proofs.Time.IsoStamp
import StaticPreview.Proofs.AccessLine.Json
import StaticPreview.Proofs.AccessLine.Inert
import StaticPreview.Proofs.AccessLine.Custom
import StaticPreview.Proofs.AccessLine.Spaced
import StaticPreview.Proofs.Target.Effect
import StaticPreview.Proofs.Site.IndexFile
import StaticPreview.Proofs.Site.Bodiless
import StaticPreview.Proofs.Site.Undated
import StaticPreview.Proofs.Target.Separator
import StaticPreview.Proofs.Site.Noted
import StaticPreview.Proofs.FileSystem.Growth
import StaticPreview.Proofs.Address.Stops
import StaticPreview.Proofs.Address.ReadBack
import StaticPreview.Proofs.Settings.Listening
import StaticPreview.Proofs.LogFiles
