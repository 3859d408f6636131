import Stencil.Block.Edge
import Stencil.Block.Tabs
import Stencil.Command.Lookup
import Stencil.Expansion.Nested
import Stencil.Expansion.Report
import Stencil.Main
import Stencil.Release.Printer
import Stencil.Release.Reader
import Stencil.Service.Api
import Stencil.Settings.Grammar
import Stencil.Settings.Printer
import Stencil.Settings.Reader
import Stencil.Source.Source
import Stencil.Proofs.Block.Edges
import Stencil.Proofs.Block.Lines
import Stencil.Proofs.Expansion.Agreement
import Stencil.Proofs.Expansion.Alignment
import Stencil.Proofs.Expansion.Depth
import Stencil.Proofs.Expansion.Descent
import Stencil.Proofs.Expansion.Indentation
import Stencil.Proofs.Expansion.Leftover
import Stencil.Proofs.Expansion.Refinement
import Stencil.Proofs.Expansion.Reporting
import Stencil.Proofs.Expansion.Runs
import Stencil.Proofs.Expansion.Safety
import Stencil.Proofs.Expansion.Transcript
import Stencil.Proofs.Expansion.Verbatim
import Stencil.Proofs.Placeholder.Names
import Stencil.Proofs.Placeholder.Tidy
import Stencil.Proofs.Settings.Histories
import Stencil.Proofs.Settings.LineEnds
import Stencil.Proofs.Settings.Patterns
import Stencil.Proofs.Settings.Plain
import Stencil.Proofs.Settings.Remarks
import Stencil.Proofs.Settings.Reading
import Stencil.Proofs.Settings.RoundTrip
import Stencil.Proofs.Settings.Store
import Stencil.Proofs.Text.Cutting
import Stencil.Proofs.Placeholder.Spans
import Stencil.Proofs.Release.Headers
import Stencil.Proofs.Release.RoundTrip
import Stencil.Proofs.Files.Ascent
import Stencil.Proofs.Release.Attributes
import Stencil.Command.Priority
import Stencil.Proofs.Command.Priority
import Stencil.Proofs.Files.Writing
import Stencil.Proofs.Command.Outcomes
import Stencil.Proofs.Release.Patterns
import Stencil.Block.Grammar
import Stencil.Proofs.Block.Patterns
import Stencil.Proofs.Block.Settling
import Stencil.Proofs.Service.Listing
import Stencil.Proofs.Service.Normalization
import Stencil.Proofs.Expansion.Hanging
import Stencil.Proofs.Text.Case
import Stencil.Proofs.Source.Exposure
import Stencil.Proofs.Block.Dedenting
import Stencil.Proofs.Service.Reindentation
import Stencil.Proofs.Block.CommonIndent
import Stencil.Proofs.Command.Strictness
import Stencil.Proofs.Release.Coding
import Stencil.Proofs.Source.Choices
import Stencil.Proofs.Block.Columns
import Stencil.Proofs.Files.Climbing
import Stencil.Block.Scan
import Stencil.Proofs.Block.Indenting
import Stencil.Proofs.Block.Scanning
import Stencil.Proofs.Block.Forcing
import Stencil.Proofs.Release.Latest
import Stencil.Proofs.Command.Untouched
