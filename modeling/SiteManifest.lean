import SiteManifest.Calendar.Date
import SiteManifest.Calendar.Moment
import SiteManifest.CommandLine.Arguments
import SiteManifest.CommandLine.Paint
import SiteManifest.CommandLine.Report
import SiteManifest.CommandLine.Run
import SiteManifest.Decimal.Binary64
import SiteManifest.Decimal.Notation
import SiteManifest.Decimal.Reading
import SiteManifest.Decimal.Shortest
import SiteManifest.Draft
import SiteManifest.Environment
import SiteManifest.Event
import SiteManifest.Expansion
import SiteManifest.FieldPath
import SiteManifest.FilePath
import SiteManifest.FileTree
import SiteManifest.Format
import SiteManifest.Idna.Direction
import SiteManifest.Idna.Domain
import SiteManifest.Idna.Joining
import SiteManifest.Idna.Mapping
import SiteManifest.Idna.Mark
import SiteManifest.Idna.Punycode
import SiteManifest.Json.Basic
import SiteManifest.Json.Fault
import SiteManifest.Json.Lexeme
import SiteManifest.Json.Printer
import SiteManifest.Json.Punctuation
import SiteManifest.Json.Reader
import SiteManifest.Json.Skip
import SiteManifest.LoadError
import SiteManifest.Loading
import SiteManifest.Log.Filter
import SiteManifest.Log.Record
import SiteManifest.Main
import SiteManifest.Proofs.Calendar.CivilTime
import SiteManifest.Proofs.Calendar.Gregorian
import SiteManifest.Proofs.CommandLine.Agreement
import SiteManifest.Proofs.CommandLine.Arguments
import SiteManifest.Proofs.CommandLine.Dump
import SiteManifest.Proofs.CommandLine.Report
import SiteManifest.Proofs.Decimal.Numeral
import SiteManifest.Proofs.Draft.Form
import SiteManifest.Proofs.Draft.Given
import SiteManifest.Proofs.Draft.Text
import SiteManifest.Proofs.Except
import SiteManifest.Proofs.Expansion
import SiteManifest.Proofs.Expansion.Parts
import SiteManifest.Proofs.Expansion.Pieces
import SiteManifest.Proofs.FieldPath
import SiteManifest.Proofs.FilePath
import SiteManifest.Proofs.FilePath.LastComponent
import SiteManifest.Proofs.Format
import SiteManifest.Proofs.Json.Printing
import SiteManifest.Proofs.Json.Reading
import SiteManifest.Proofs.Json.Reordered
import SiteManifest.Proofs.Json.Skipping
import SiteManifest.Proofs.Json.Spelling
import SiteManifest.Proofs.Json.Tidy
import SiteManifest.Proofs.Loading.Direct
import SiteManifest.Proofs.Loading.Discovery
import SiteManifest.Proofs.Loading.Documents
import SiteManifest.Proofs.Loading.Effective
import SiteManifest.Proofs.Loading.Files
import SiteManifest.Proofs.Loading.Listed
import SiteManifest.Proofs.Loading.Loaded
import SiteManifest.Proofs.Loading.Located
import SiteManifest.Proofs.Loading.Malformed
import SiteManifest.Proofs.Loading.Messages
import SiteManifest.Proofs.Loading.Overlooked
import SiteManifest.Proofs.Loading.Printed
import SiteManifest.Proofs.Loading.PrintedFile
import SiteManifest.Proofs.Loading.Referred
import SiteManifest.Proofs.Loading.Variables
import SiteManifest.Proofs.Loading.Written
import SiteManifest.Proofs.Scalar
import SiteManifest.Proofs.Shape.Faithful
import SiteManifest.Proofs.Shape.FaithfulRecord
import SiteManifest.Proofs.Shape.Form
import SiteManifest.Proofs.Shape.Given
import SiteManifest.Proofs.Shape.OrderFree
import SiteManifest.Proofs.Shape.Overlooked
import SiteManifest.Proofs.Shape.Record
import SiteManifest.Proofs.Shape.Schema
import SiteManifest.Proofs.Site.Base
import SiteManifest.Proofs.Site.Draft
import SiteManifest.Proofs.Site.Highlight
import SiteManifest.Proofs.Site.LabelParts
import SiteManifest.Proofs.Site.LabelReading
import SiteManifest.Proofs.Site.Sidebar
import SiteManifest.Proofs.Site.Social
import SiteManifest.Proofs.Site.Valid
import SiteManifest.Proofs.Text.Quoted
import SiteManifest.Proofs.Traced
import SiteManifest.Proofs.Validation.Alike
import SiteManifest.Proofs.Validation.Kept
import SiteManifest.Proofs.Validation.Pruned
import SiteManifest.Proofs.Validation.Skipped
import SiteManifest.Proofs.Validation.Success
import SiteManifest.Proofs.Validation.SwitchedOff
import SiteManifest.Proofs.Validation.Violations
import SiteManifest.Proofs.Violation
import SiteManifest.Proofs.Yaml.Stream
import SiteManifest.Shape.Decoder
import SiteManifest.Shape.Mismatch
import SiteManifest.Shape.Record
import SiteManifest.Site.Basic
import SiteManifest.Site.Icon
import SiteManifest.Site.Label
import SiteManifest.Site.Link
import SiteManifest.Site.Navigation
import SiteManifest.Site.Style
import SiteManifest.Text.Alphanumeric
import SiteManifest.Text.Blank
import SiteManifest.Text.Decomposition
import SiteManifest.Text.MappingTable
import SiteManifest.Text.Normal
import SiteManifest.Text.Quoted
import SiteManifest.Text.RangeTable
import SiteManifest.Text.Unprintable
import SiteManifest.Toml.Document
import SiteManifest.Toml.Key
import SiteManifest.Toml.Quoted
import SiteManifest.Toml.Scalar
import SiteManifest.Toml.Table
import SiteManifest.Toml.Value
import SiteManifest.Traced
import SiteManifest.Url.Absolute
import SiteManifest.Url.Address
import SiteManifest.Url.Host
import SiteManifest.Validation
import SiteManifest.Violation
import SiteManifest.Yaml.Block
import SiteManifest.Yaml.Composition
import SiteManifest.Yaml.Cursor
import SiteManifest.Yaml.Document
import SiteManifest.Yaml.Gap
import SiteManifest.Yaml.Layout
import SiteManifest.Yaml.Node
import SiteManifest.Yaml.Plain
import SiteManifest.Yaml.Property
import SiteManifest.Yaml.Quoted
import SiteManifest.Yaml.Scalar
import SiteManifest.Yaml.Token
import SiteManifest.Yaml.Tokens
