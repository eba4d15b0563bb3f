import PerlCalls.Command.Options
import PerlCalls.Command.Request
import PerlCalls.Command.Session
import PerlCalls.Command.Usual
import PerlCalls.Data.Rounding
import PerlCalls.Data.SortedMap
import PerlCalls.Export.Destination
import PerlCalls.Export.Dot
import PerlCalls.Export.Json
import PerlCalls.Export.Render
import PerlCalls.Files.Disk
import PerlCalls.Files.Path
import PerlCalls.Graph.CallGraph
import PerlCalls.Graph.Definition
import PerlCalls.Graph.NodeId
import PerlCalls.Graph.Resolution
import PerlCalls.Graph.Traversal
import PerlCalls.Input.Check
import PerlCalls.Input.Fractional
import PerlCalls.Input.Records
import PerlCalls.Input.Refusal
import PerlCalls.Input.Shown
import PerlCalls.Input.Value
import PerlCalls.Log
import PerlCalls.Main
import PerlCalls.Pattern.Fault
import PerlCalls.Pattern.Node
import PerlCalls.Pattern.Parser
import PerlCalls.Pattern.Search
import PerlCalls.Perl.Line
import PerlCalls.Perl.Literal
import PerlCalls.Proofs.Asides
import PerlCalls.Proofs.BodyEnds
import PerlCalls.Proofs.BraceDepth
import PerlCalls.Proofs.BuildOrder
import PerlCalls.Proofs.CallPlaces
import PerlCalls.Proofs.Checks
import PerlCalls.Proofs.Clusters
import PerlCalls.Proofs.CodeLines
import PerlCalls.Proofs.ColumnZero
import PerlCalls.Proofs.DeclarationDepth
import PerlCalls.Proofs.Defined
import PerlCalls.Proofs.Deliveries
import PerlCalls.Proofs.DepthFirst
import PerlCalls.Proofs.DiskWrites
import PerlCalls.Proofs.DotReading
import PerlCalls.Proofs.Edges
import PerlCalls.Proofs.Endings
import PerlCalls.Proofs.Expansion
import PerlCalls.Proofs.ExportAgreement
import PerlCalls.Proofs.Extents
import PerlCalls.Proofs.Fallback
import PerlCalls.Proofs.FileOrder
import PerlCalls.Proofs.Formats
import PerlCalls.Proofs.JsonReading
import PerlCalls.Proofs.Layers
import PerlCalls.Proofs.Lexemes
import PerlCalls.Proofs.LineEnds
import PerlCalls.Proofs.Listed
import PerlCalls.Proofs.LowerCase
import PerlCalls.Proofs.Maps
import PerlCalls.Proofs.Mirror
import PerlCalls.Proofs.MoreStarts
import PerlCalls.Proofs.Numerals
import PerlCalls.Proofs.Outline
import PerlCalls.Proofs.PathNames
import PerlCalls.Proofs.Pieces
import PerlCalls.Proofs.Reached
import PerlCalls.Proofs.RecordLabels
import PerlCalls.Proofs.Recorded
import PerlCalls.Proofs.Resolution
import PerlCalls.Proofs.Roots
import PerlCalls.Proofs.SharedNames
import PerlCalls.Proofs.SingleStart
import PerlCalls.Proofs.SoundTexts
import PerlCalls.Proofs.Surroundings
import PerlCalls.Proofs.Tally
import PerlCalls.Proofs.Unreadable
import PerlCalls.Proofs.UsualConsole
import PerlCalls.Report.Argument
import PerlCalls.Report.Colour
import PerlCalls.Report.Console
import PerlCalls.Report.Emoji
import PerlCalls.Report.EmojiNames
import PerlCalls.Report.Markup
import PerlCalls.Report.Style
import PerlCalls.Report.Table
import PerlCalls.Report.Wrap
import PerlCalls.Run.Load
import PerlCalls.Run.Pipeline
import PerlCalls.Run.Settings
import PerlCalls.Run.Stats
import PerlCalls.Scan.Context
import PerlCalls.Scan.Tally
import PerlCalls.Text.Blank
import PerlCalls.Text.Case
import PerlCalls.Text.Cells
import PerlCalls.Text.CharacterName
import PerlCalls.Text.Digit
import PerlCalls.Text.Identifier
import PerlCalls.Text.Lines
import PerlCalls.Text.Names.Aliases
import PerlCalls.Text.Names.Letters
import PerlCalls.Text.Names.Pictures
import PerlCalls.Text.Names.Scripts
import PerlCalls.Text.Names.Syllables
import PerlCalls.Text.Names.Symbols
import PerlCalls.Text.Printable
import PerlCalls.Text.Quoted
import PerlCalls.Text.Ranges
import PerlCalls.Text.Utf8
import PerlCalls.Text.Whole
import PerlCalls.Text.Width
import PerlCalls.Text.Word
import PerlCalls.Yaml.Block
import PerlCalls.Yaml.Cursor
import PerlCalls.Yaml.Date
import PerlCalls.Yaml.Document
import PerlCalls.Yaml.Fault
import PerlCalls.Yaml.Node
import PerlCalls.Yaml.Property
import PerlCalls.Yaml.Quoted
import PerlCalls.Yaml.Scalar
import PerlCalls.Yaml.Token
import PerlCalls.Yaml.Tree
