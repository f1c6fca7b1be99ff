import DocAtlas.Audit.Check
import DocAtlas.Audit.Policy
import DocAtlas.Audit.Reference
import DocAtlas.Audit.Report
import DocAtlas.Build
import DocAtlas.Catalog.Basic
import DocAtlas.Catalog.Load
import DocAtlas.Command.Basic
import DocAtlas.Command.Complaint
import DocAtlas.Command.Parse
import DocAtlas.Command.Reach
import DocAtlas.Command.Run
import DocAtlas.Command.Usage
import DocAtlas.Console
import DocAtlas.Disk
import DocAtlas.Document.Basic
import DocAtlas.Document.FrontMatter
import DocAtlas.Document.Links
import DocAtlas.Failure
import DocAtlas.Json.Basic
import DocAtlas.Json.Printer
import DocAtlas.Link
import DocAtlas.Main
import DocAtlas.Manifest
import DocAtlas.Markdown.Block
import DocAtlas.Markdown.Cursor
import DocAtlas.Markdown.Definition
import DocAtlas.Markdown.Entity
import DocAtlas.Markdown.EntityTable
import DocAtlas.Markdown.Html
import DocAtlas.Markdown.Inline
import DocAtlas.Markdown.Label
import DocAtlas.Markdown.LineKind
import DocAtlas.Markdown.Margin
import DocAtlas.Markdown.Token
import DocAtlas.Number.Binary64
import DocAtlas.Path
import DocAtlas.Route
import DocAtlas.Scaffold
import DocAtlas.Settings.Basic
import DocAtlas.Settings.Canonical
import DocAtlas.Settings.Decode
import DocAtlas.Settings.Finding
import DocAtlas.Settings.Resolve
import DocAtlas.Settings.Rules
import DocAtlas.Sidebar.Basic
import DocAtlas.Sidebar.Decode
import DocAtlas.Site.Basic
import DocAtlas.Site.Load
import DocAtlas.StringMap
import DocAtlas.Text.Basic
import DocAtlas.Text.CaseFold
import DocAtlas.Text.CaseTable
import DocAtlas.Text.CodeRanges
import DocAtlas.Text.Paint
import DocAtlas.Text.Percent
import DocAtlas.Text.Printable
import DocAtlas.Text.Quoted
import DocAtlas.Text.Similarity
import DocAtlas.Text.Utf8
import DocAtlas.Toml.Decode
import DocAtlas.Toml.Document
import DocAtlas.Toml.Excerpt
import DocAtlas.Toml.Reader
import DocAtlas.Toml.Scalar
import DocAtlas.Toml.Shape
import DocAtlas.Toml.Tree
import DocAtlas.Toml.Value
import DocAtlas.Url.Address
import DocAtlas.Url.Basic
import DocAtlas.Url.Domain
import DocAtlas.Url.Punycode
import DocAtlas.Url.Tables
import DocAtlas.Proofs.Sidebar
import DocAtlas.Proofs.Audit.Exactness
import DocAtlas.Proofs.Settings.Demand
import DocAtlas.Proofs.Settings.Validation
import DocAtlas.Proofs.Json.Layout
import DocAtlas.Proofs.Manifest
import DocAtlas.Proofs.Route
import DocAtlas.Proofs.Route.NormalForm
import DocAtlas.Proofs.Route.Relative
import DocAtlas.Proofs.Path
import DocAtlas.Proofs.Disk
import DocAtlas.Proofs.Catalog.Index
import DocAtlas.Proofs.Catalog.Load
import DocAtlas.Proofs.Catalog.Sources
import DocAtlas.Proofs.Encoding
import DocAtlas.Proofs.Link
import DocAtlas.Proofs.Audit.FileLinks
import DocAtlas.Proofs.Audit.RouteLinks
import DocAtlas.Proofs.Audit.Policies
import DocAtlas.Proofs.Catalog.Below
import DocAtlas.Proofs.Toml.Pruning
import DocAtlas.Proofs.Settings.Tree
import DocAtlas.Proofs.Settings.Defaults
import DocAtlas.Proofs.Settings.Sections
import DocAtlas.Proofs.Settings.UnknownKeys
import DocAtlas.Proofs.Disk.Writing
import DocAtlas.Proofs.Site.Search
import DocAtlas.Proofs.Audit.Check
import DocAtlas.Proofs.Build.Frame
import DocAtlas.Proofs.Audit.Monotone
import DocAtlas.Proofs.Catalog.Growth
import DocAtlas.Proofs.Build.Rebuild
import DocAtlas.Proofs.Audit.Additions
import DocAtlas.Proofs.Audit.Spellings
import DocAtlas.Proofs.Settings.Resources
import DocAtlas.Proofs.Scaffold.Starter
import DocAtlas.Proofs.Scaffold.Frame
import DocAtlas.Proofs.Document.FrontMatter
import DocAtlas.Proofs.Document.Assignments
import DocAtlas.Proofs.Audit.Verdicts
import DocAtlas.Proofs.Audit.RelativeLinks
import DocAtlas.Proofs.Document.Collisions
import DocAtlas.Proofs.Catalog.Positions
import DocAtlas.Proofs.Markdown.Scanning
import DocAtlas.Proofs.Document.Lines
import DocAtlas.Proofs.Path.Cleaning
