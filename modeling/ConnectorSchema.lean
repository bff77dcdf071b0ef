import ConnectorSchema.CommandLine.Arguments
import ConnectorSchema.CommandLine.Command
import ConnectorSchema.CommandLine.Complaint
import ConnectorSchema.CommandLine.Help
import ConnectorSchema.CommandLine.Listing
import ConnectorSchema.CommandLine.Parameter
import ConnectorSchema.CommandLine.Run
import ConnectorSchema.CommandLine.Session
import ConnectorSchema.CommandLine.Settings
import ConnectorSchema.CommandLine.UsageError
import ConnectorSchema.Digest.Sha256
import ConnectorSchema.Discovery
import ConnectorSchema.Document.Basic
import ConnectorSchema.Document.Control
import ConnectorSchema.Document.Form
import ConnectorSchema.Document.Input
import ConnectorSchema.Document.Writer
import ConnectorSchema.Files.FileError
import ConnectorSchema.Files.FileSystem
import ConnectorSchema.Files.Path
import ConnectorSchema.Files.Tree
import ConnectorSchema.Filter.Choice
import ConnectorSchema.Filter.Concatenation
import ConnectorSchema.Filter.Escape
import ConnectorSchema.Filter.Launcher
import ConnectorSchema.Filter.Lines
import ConnectorSchema.Filter.Matching
import ConnectorSchema.Filter.Octets
import ConnectorSchema.Filter.Outcome
import ConnectorSchema.Filter.Pattern.Basic
import ConnectorSchema.Filter.Pattern.Course
import ConnectorSchema.Filter.Pattern.Extent
import ConnectorSchema.Filter.Pattern.Reader
import ConnectorSchema.Filter.Plain
import ConnectorSchema.Filter.Program
import ConnectorSchema.Filter.Search
import ConnectorSchema.Filter.Shell.Arithmetic
import ConnectorSchema.Filter.Shell.Builtin
import ConnectorSchema.Filter.Shell.Condition
import ConnectorSchema.Filter.Shell.Expansion
import ConnectorSchema.Filter.Shell.Formatted
import ConnectorSchema.Filter.Shell.Program
import ConnectorSchema.Filter.Shell.Reader
import ConnectorSchema.Filter.Shell.Redirection
import ConnectorSchema.Filter.Shell.Run
import ConnectorSchema.Filter.Shell.Script
import ConnectorSchema.Filter.Shell.Session
import ConnectorSchema.Filter.Shell.Token
import ConnectorSchema.Filter.Shell.Wildcard
import ConnectorSchema.Filter.Span
import ConnectorSchema.Filter.StreamEdit.Escape
import ConnectorSchema.Filter.StreamEdit.Machine
import ConnectorSchema.Filter.StreamEdit.Program
import ConnectorSchema.Filter.StreamEdit.Reader
import ConnectorSchema.Filter.StreamEdit.Script
import ConnectorSchema.Filter.StreamEdit.Substitute
import ConnectorSchema.Filter.Transliterate
import ConnectorSchema.Formatter
import ConnectorSchema.Generation
import ConnectorSchema.Go.File
import ConnectorSchema.Go.Imports
import ConnectorSchema.Go.Literal
import ConnectorSchema.Json.Fault
import ConnectorSchema.Json.Node
import ConnectorSchema.Json.Number
import ConnectorSchema.Json.Reader
import ConnectorSchema.Json.Record
import ConnectorSchema.Json.Scan
import ConnectorSchema.Json.Value
import ConnectorSchema.Launch
import ConnectorSchema.Main
import ConnectorSchema.Naming
import ConnectorSchema.Number.Double
import ConnectorSchema.Number.DoubleText
import ConnectorSchema.Number.Integer
import ConnectorSchema.Number.Shortest
import ConnectorSchema.Proofs.Acceptance
import ConnectorSchema.Proofs.AsciiCase
import ConnectorSchema.Proofs.AttributeLines
import ConnectorSchema.Proofs.AttributeReading
import ConnectorSchema.Proofs.EntryAttribute
import ConnectorSchema.Proofs.FieldName
import ConnectorSchema.Proofs.FileLines
import ConnectorSchema.Proofs.Identifier
import ConnectorSchema.Proofs.ImportUse
import ConnectorSchema.Proofs.IntegerText
import ConnectorSchema.Proofs.Lines
import ConnectorSchema.Proofs.Literal
import ConnectorSchema.Proofs.Package
import ConnectorSchema.Proofs.PackageUse
import ConnectorSchema.Proofs.Rendering
import ConnectorSchema.Proofs.Scan
import ConnectorSchema.Report
import ConnectorSchema.Schema.Attribute
import ConnectorSchema.Schema.Capabilities
import ConnectorSchema.Schema.EntryAttribute
import ConnectorSchema.Schema.Kind
import ConnectorSchema.Schema.Model
import ConnectorSchema.Schema.OfDocument
import ConnectorSchema.Schema.Problem
import ConnectorSchema.Text.Backslash
import ConnectorSchema.Text.Blank
import ConnectorSchema.Text.EscapeTable
import ConnectorSchema.Text.Letter
import ConnectorSchema.Text.LetterTables
import ConnectorSchema.Text.Quoted
import ConnectorSchema.Text.Run
import ConnectorSchema.Text.Terminal
import ConnectorSchema.Text.Utf8
import ConnectorSchema.Proofs.AttributeRules
import ConnectorSchema.Proofs.Mappings
import ConnectorSchema.Proofs.Spelling
import ConnectorSchema.Proofs.WrittenNumber
import ConnectorSchema.Proofs.MemberOrder
import ConnectorSchema.Proofs.WrittenValue
import ConnectorSchema.Proofs.Reading
import ConnectorSchema.Proofs.RecordReading
import ConnectorSchema.Proofs.Restoring
import ConnectorSchema.Proofs.RoundTrip
import ConnectorSchema.Proofs.DocumentChanges
import ConnectorSchema.Proofs.HiddenData
import ConnectorSchema.Proofs.DeclaredNames
import ConnectorSchema.Proofs.TreePlaces
import ConnectorSchema.Proofs.Walking
import ConnectorSchema.Proofs.FilePlaces
import ConnectorSchema.Proofs.FileWriting
import ConnectorSchema.Proofs.DirectoryMaking
import ConnectorSchema.Proofs.OutputFiles
import ConnectorSchema.Proofs.Emission
import ConnectorSchema.Proofs.FoundConnectors
import ConnectorSchema.Proofs.JoinedRuns
import ConnectorSchema.Proofs.GenerateRun
import ConnectorSchema.Proofs.EntryOrder
import ConnectorSchema.Proofs.LetterCase
import ConnectorSchema.Proofs.RepeatedNaming
import ConnectorSchema.Proofs.AttributeName
import ConnectorSchema.Proofs.Blanking
import ConnectorSchema.Proofs.FreeText
import ConnectorSchema.Proofs.FieldSpelling
import ConnectorSchema.Proofs.LiteralValue
import ConnectorSchema.Proofs.StructTag
import ConnectorSchema.Proofs.DoubleValue
import ConnectorSchema.Proofs.Rounding
import ConnectorSchema.Proofs.ValueText
import ConnectorSchema.Proofs.WrittenFields
import ConnectorSchema.Proofs.AttributeBlock
import ConnectorSchema.Proofs.SliderBounds
import ConnectorSchema.Proofs.StructuredDefault
import ConnectorSchema.Proofs.SelectDefault
import ConnectorSchema.Proofs.ByteOrder
import ConnectorSchema.Proofs.DiskTree
import ConnectorSchema.Proofs.PluginSearch
import ConnectorSchema.Proofs.Trimming
import ConnectorSchema.Proofs.IntegerDefault
import ConnectorSchema.Proofs.WrittenInteger
import ConnectorSchema.Proofs.Descriptions
import ConnectorSchema.Proofs.InertCharacters
import ConnectorSchema.Proofs.Inspection
