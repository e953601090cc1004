import Widgetry.Cache.Basic
import Widgetry.Cache.Remote
import Widgetry.CommandLine.Arguments
import Widgetry.CommandLine.Client
import Widgetry.CommandLine.Line
import Widgetry.CommandLine.Preferences
import Widgetry.CommandLine.Problem
import Widgetry.CommandLine.Rendering
import Widgetry.CommandLine.Run
import Widgetry.CommandLine.Saved
import Widgetry.CommandLine.Snapshot
import Widgetry.CommandLine.Switches
import Widgetry.Component.Embed
import Widgetry.Component.Fragment
import Widgetry.Component.Literal
import Widgetry.Component.Name
import Widgetry.Component.Source
import Widgetry.Component.Style
import Widgetry.Decimal.Binary
import Widgetry.Decimal.Layout
import Widgetry.Decimal.Power
import Widgetry.Decimal.Reading
import Widgetry.Decimal.Shortest
import Widgetry.Dictionary
import Widgetry.Domain.Direction
import Widgetry.Domain.Joining
import Widgetry.Domain.Mapping
import Widgetry.Domain.Name
import Widgetry.Domain.Punycode
import Widgetry.Files.Tree
import Widgetry.Http.Address
import Widgetry.Http.Cors
import Widgetry.Http.Host
import Widgetry.Http.MediaType
import Widgetry.Http.Message
import Widgetry.Http.Percent
import Widgetry.Http.Router
import Widgetry.Http.Target
import Widgetry.Http.Url
import Widgetry.Http.Validation
import Widgetry.Json.Decode
import Widgetry.Json.Error
import Widgetry.Json.Number
import Widgetry.Json.Position
import Widgetry.Json.Printer
import Widgetry.Json.Raw
import Widgetry.Json.Token
import Widgetry.Json.Value
import Widgetry.Log.Directive
import Widgetry.Log.Event
import Widgetry.Log.Filter
import Widgetry.Log.Pattern
import Widgetry.Main
import Widgetry.Model.Chat
import Widgetry.Model.Content
import Widgetry.Model.Error
import Widgetry.Model.Fallback
import Widgetry.Model.Prompt
import Widgetry.Proofs.Cache.Backends
import Widgetry.Proofs.Cache.Server
import Widgetry.Proofs.Cache.Table
import Widgetry.Proofs.CommandLine.Editing
import Widgetry.Proofs.CommandLine.Rendering
import Widgetry.Proofs.Component.Balance
import Widgetry.Proofs.Component.Binding
import Widgetry.Proofs.Component.Comment
import Widgetry.Proofs.Component.Content
import Widgetry.Proofs.Component.Embedding
import Widgetry.Proofs.Component.Emission
import Widgetry.Proofs.Component.Fidelity
import Widgetry.Proofs.Component.Fitting
import Widgetry.Proofs.Component.Literal
import Widgetry.Proofs.Component.Marks
import Widgetry.Proofs.Component.Naming
import Widgetry.Proofs.Component.Nesting
import Widgetry.Proofs.Component.Overrides
import Widgetry.Proofs.Component.Properties
import Widgetry.Proofs.Component.Quotation
import Widgetry.Proofs.Component.Readability
import Widgetry.Proofs.Component.Rejection
import Widgetry.Proofs.Component.Shape
import Widgetry.Proofs.Component.Style
import Widgetry.Proofs.Component.Word
import Widgetry.Proofs.Decimal.Digits
import Widgetry.Proofs.Decimal.Spelling
import Widgetry.Proofs.Files.Directories
import Widgetry.Proofs.Http.Bodies
import Widgetry.Proofs.Http.Deadline
import Widgetry.Proofs.Http.Export
import Widgetry.Proofs.Http.Origins
import Widgetry.Proofs.Http.Refusal
import Widgetry.Proofs.Json.Change
import Widgetry.Proofs.Json.Decoding
import Widgetry.Proofs.Json.Delimited
import Widgetry.Proofs.Json.Ending
import Widgetry.Proofs.Json.Holding
import Widgetry.Proofs.Json.Lexeme
import Widgetry.Proofs.Json.Likeness
import Widgetry.Proofs.Json.Numeral
import Widgetry.Proofs.Json.Order
import Widgetry.Proofs.Json.Plain
import Widgetry.Proofs.Json.Printing
import Widgetry.Proofs.Json.Record
import Widgetry.Proofs.Json.Results
import Widgetry.Proofs.Json.Shape
import Widgetry.Proofs.Json.Spot
import Widgetry.Proofs.Json.Text
import Widgetry.Proofs.Json.Value
import Widgetry.Proofs.Json.Whole
import Widgetry.Proofs.Json.Written
import Widgetry.Proofs.Model.Content
import Widgetry.Proofs.Model.Prompt
import Widgetry.Proofs.Model.Reply
import Widgetry.Proofs.Model.Request
import Widgetry.Proofs.Model.Strictness
import Widgetry.Proofs.Script.Literal
import Widgetry.Proofs.Script.Object
import Widgetry.Proofs.Service.Coherence
import Widgetry.Proofs.Service.Forgetting
import Widgetry.Proofs.Service.Memo
import Widgetry.Proofs.Service.Replies
import Widgetry.Proofs.Service.Resubmission
import Widgetry.Proofs.Service.Run
import Widgetry.Proofs.Service.Served
import Widgetry.Proofs.Settings.Overlay
import Widgetry.Proofs.Settings.Resolution
import Widgetry.Proofs.Settings.Setting
import Widgetry.Proofs.Settings.Verbatim
import Widgetry.Proofs.Text.Trimming
import Widgetry.Proofs.Widget.Agreement
import Widgetry.Proofs.Widget.Fields
import Widgetry.Proofs.Widget.Grammar
import Widgetry.Proofs.Widget.Ids
import Widgetry.Proofs.Widget.Issues
import Widgetry.Proofs.Widget.Leniency
import Widgetry.Proofs.Widget.Remaining
import Widgetry.Proofs.Widget.Repair
import Widgetry.Proofs.Widget.Response
import Widgetry.Proofs.Widget.RoundTrip
import Widgetry.Proofs.Widget.Search
import Widgetry.Proofs.Widget.Whole
import Widgetry.Service.Basic
import Widgetry.Service.Interruption
import Widgetry.Service.Listener
import Widgetry.Service.Startup
import Widgetry.Settings.Basic
import Widgetry.Settings.Conversion
import Widgetry.Settings.Description
import Widgetry.Settings.Dotenv
import Widgetry.Settings.Layers
import Widgetry.Settings.Loading
import Widgetry.Settings.Path
import Widgetry.Settings.Setting
import Widgetry.Text.Alphanumeric
import Widgetry.Text.Blank
import Widgetry.Text.CodePoints
import Widgetry.Text.Combining
import Widgetry.Text.Composition
import Widgetry.Text.Hex
import Widgetry.Text.Hidden
import Widgetry.Text.Kebab
import Widgetry.Text.LetterCase
import Widgetry.Text.Quoted
import Widgetry.Text.Table
import Widgetry.Text.Terminal
import Widgetry.Toml.Document
import Widgetry.Toml.Draft
import Widgetry.Toml.Scalar
import Widgetry.Toml.Value
import Widgetry.Widget.Description
import Widgetry.Widget.Kind
import Widgetry.Widget.Reading
import Widgetry.Widget.Repair
import Widgetry.Widget.Response
import Widgetry.Widget.Writing
