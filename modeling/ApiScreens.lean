import ApiScreens.Chart.Generate
import ApiScreens.Chart.Page
import ApiScreens.Clock
import ApiScreens.Command.Level
import ApiScreens.Command.Line
import ApiScreens.Command.Reach
import ApiScreens.Command.Reader
import ApiScreens.Command.Run
import ApiScreens.Disk
import ApiScreens.Document
import ApiScreens.Document.Text
import ApiScreens.Domain.Offline
import ApiScreens.Domain.Probe
import ApiScreens.Domain.Report
import ApiScreens.Domain.Run
import ApiScreens.Emission
import ApiScreens.Entity
import ApiScreens.Field
import ApiScreens.Files.Error
import ApiScreens.Files.Object
import ApiScreens.Files.Tree
import ApiScreens.Heuristics
import ApiScreens.Icon
import ApiScreens.Input.Error
import ApiScreens.Json.Printer
import ApiScreens.Json.Reader
import ApiScreens.Json.Record
import ApiScreens.Json.Token
import ApiScreens.Json.Value
import ApiScreens.Json.Written
import ApiScreens.Locale.Calls
import ApiScreens.Locale.Catalog
import ApiScreens.Locale.Guess
import ApiScreens.Locale.ModuleKeys
import ApiScreens.Locale.Phrase
import ApiScreens.Locale.Sources
import ApiScreens.Locale.Sync
import ApiScreens.Locale.Term
import ApiScreens.Logging
import ApiScreens.Main
import ApiScreens.Module.Basic
import ApiScreens.Module.Build
import ApiScreens.Module.Json
import ApiScreens.Module.Screens
import ApiScreens.Naming
import ApiScreens.Number.Binary64
import ApiScreens.Number.Decimal
import ApiScreens.Number.Digits
import ApiScreens.Number.Layout
import ApiScreens.Number.Shortest
import ApiScreens.Output.Batch
import ApiScreens.Output.File
import ApiScreens.Output.Write
import ApiScreens.Override.Directory
import ApiScreens.Override.Grammar
import ApiScreens.Override.Render
import ApiScreens.Override.Token
import ApiScreens.Page.Analysis
import ApiScreens.Page.Data
import ApiScreens.Page.Navigation
import ApiScreens.Page.Register
import ApiScreens.Page.Table
import ApiScreens.Path
import ApiScreens.Pattern
import ApiScreens.Proofs.Domain.Loaded
import ApiScreens.Proofs.Domain.Reports
import ApiScreens.Proofs.Domain.Rewrite
import ApiScreens.Proofs.Emission.Closed
import ApiScreens.Proofs.Emission.Distinct
import ApiScreens.Proofs.Emission.Paths
import ApiScreens.Proofs.Entity
import ApiScreens.Proofs.Files.Change
import ApiScreens.Proofs.Files.Walk
import ApiScreens.Proofs.Json.Leaf
import ApiScreens.Proofs.Json.Lexing
import ApiScreens.Proofs.Json.Members
import ApiScreens.Proofs.Json.Number
import ApiScreens.Proofs.Json.Outline
import ApiScreens.Proofs.Json.Record
import ApiScreens.Proofs.Json.RoundTrip
import ApiScreens.Proofs.Locale.Fill
import ApiScreens.Proofs.Locale.Merge
import ApiScreens.Proofs.Locale.Sources
import ApiScreens.Proofs.Locale.Sync
import ApiScreens.Proofs.Module.Built
import ApiScreens.Proofs.Module.RoundTrip
import ApiScreens.Proofs.Naming.Form
import ApiScreens.Proofs.Naming.Free
import ApiScreens.Proofs.Number.Digits
import ApiScreens.Proofs.Number.Reads
import ApiScreens.Proofs.Number.Rounding
import ApiScreens.Proofs.Number.Search
import ApiScreens.Proofs.Output.Frame
import ApiScreens.Proofs.Output.Free
import ApiScreens.Proofs.Output.Preservation
import ApiScreens.Proofs.Output.Replace
import ApiScreens.Proofs.Path.Component
import ApiScreens.Proofs.Path.Location
import ApiScreens.Proofs.Path.Parent
import ApiScreens.Proofs.Path.Sibling
import ApiScreens.Proofs.Server.Discipline
import ApiScreens.Proofs.Server.Retry
import ApiScreens.Proofs.Solutions.Stored
import ApiScreens.Proofs.SortedMap
import ApiScreens.Proofs.Text.Case
import ApiScreens.Proofs.Text.Pieces
import ApiScreens.Script.Code
import ApiScreens.Script.Literal
import ApiScreens.Server.Access
import ApiScreens.Server.Exchange
import ApiScreens.Server.Session
import ApiScreens.Settings.Environment
import ApiScreens.Settings.Error
import ApiScreens.Settings.File
import ApiScreens.Solutions.Directory
import ApiScreens.Solutions.Generate
import ApiScreens.Solutions.Merged
import ApiScreens.SortedMap
import ApiScreens.Template
import ApiScreens.Text.Case
import ApiScreens.Text.Class
import ApiScreens.Text.Piece
import ApiScreens.Text.Shown
import ApiScreens.Toml.Reader
import ApiScreens.Toml.Scalar
import ApiScreens.Toml.Table
import ApiScreens.Toml.Text
import ApiScreens.Url.Host
import ApiScreens.Url.Http
import ApiScreens.Url.Punycode
import ApiScreens.Workspace
import ApiScreens.Yaml.Cursor
import ApiScreens.Yaml.Node
import ApiScreens.Yaml.Property
import ApiScreens.Yaml.Scalar
import ApiScreens.Yaml.Token
import ApiScreens.Yaml.Value
import ApiScreens.Proofs.Document.Text
import ApiScreens.Proofs.Pattern
import ApiScreens.Proofs.Module.Consistent
import ApiScreens.Proofs.Emission.Isolation
import ApiScreens.Proofs.Path.Ending
import ApiScreens.Proofs.Output.Ending
import ApiScreens.Proofs.Solutions.Run
import ApiScreens.Proofs.Solutions.Merged
import ApiScreens.Proofs.Solutions.Reload
import ApiScreens.Proofs.Output.Clean
import ApiScreens.Proofs.Solutions.Selects
import ApiScreens.Proofs.Document.References
import ApiScreens.Proofs.Module.Independence
import ApiScreens.Proofs.Json.Exact
import ApiScreens.Proofs.Solutions.Charts
import ApiScreens.Proofs.Locale.Retained
import ApiScreens.Proofs.Locale.Translated
import ApiScreens.Proofs.Emission.Confined
import ApiScreens.Proofs.Emission.Exports
import ApiScreens.Proofs.Emission.Imported
import ApiScreens.Proofs.Locale.Fresh
import ApiScreens.Proofs.Locale.Derived
import ApiScreens.Proofs.Document.Chains
import ApiScreens.Proofs.Document.Envelope
import ApiScreens.Proofs.Pattern.Spelling
import ApiScreens.Proofs.Pattern.Order
import ApiScreens.Proofs.Module.Records
import ApiScreens.Proofs.Document.Once
import ApiScreens.Proofs.Module.Selection
import ApiScreens.Proofs.Solutions.Keyed
import ApiScreens.Proofs.Locale.Calls
import ApiScreens.Proofs.Script.Imports
import ApiScreens.Proofs.Emission.Components
import ApiScreens.Proofs.Emission.Hooks
import ApiScreens.Proofs.Module.Layout
import ApiScreens.Proofs.Script.Quoted
import ApiScreens.Proofs.Locale.Literals
import ApiScreens.Proofs.Script.Token
import ApiScreens.Proofs.Script.Bracket
import ApiScreens.Proofs.Script.Columns
import ApiScreens.Proofs.Script.Form
import ApiScreens.Proofs.Script.Grid
import ApiScreens.Proofs.Document.Pointer
import ApiScreens.Proofs.Script.Splice
import ApiScreens.Proofs.Emission.Spliced
import ApiScreens.Proofs.Emission.Navigated
import ApiScreens.Proofs.Script.Expression
import ApiScreens.Proofs.Script.Attribute
import ApiScreens.Proofs.Emission.Attributes
import ApiScreens.Proofs.Server.Probing
import ApiScreens.Proofs.Domain.Probed
import ApiScreens.Proofs.Files.SameBut
import ApiScreens.Proofs.Output.Batch
import ApiScreens.Proofs.Chart.Generated
import ApiScreens.Proofs.Locale.Views
import ApiScreens.Proofs.Settings.Environment
import ApiScreens.Proofs.Module.Keys
import ApiScreens.Proofs.Output.Sibling
import ApiScreens.Proofs.Calendar
import ApiScreens.Proofs.Clock
import ApiScreens.Proofs.Output.Backups
