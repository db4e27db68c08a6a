import Highlight.Main
import Highlight.Session
import Highlight.Proofs.Coverage
import Highlight.Proofs.Failure
import Highlight.Proofs.Flattening
import Highlight.Proofs.IncludeSearch
import Highlight.Proofs.Building
import Highlight.Proofs.Validation
import Highlight.Proofs.Laps
import Highlight.Proofs.CircularIncludes
import Highlight.Proofs.WellFormed
import Highlight.Proofs.StackSafety
import Highlight.Proofs.Simulation
import Highlight.Proofs.DepthLimit
import Highlight.Proofs.StateRules
import Highlight.Proofs.RulePositions
import Highlight.Proofs.Appending
import Highlight.Proofs.Inlining
import Highlight.Proofs.Renaming
import Highlight.Proofs.JsonReading
import Highlight.Proofs.JsonSkipping
import Highlight.Proofs.WrittenForms
import Highlight.Proofs.Decoding
import Highlight.Proofs.RecordReading
import Highlight.Proofs.DeclarationReading
import Highlight.Proofs.LazyReading
import Highlight.Proofs.LineByLine
import Highlight.Proofs.SessionHistory
import Highlight.Proofs.Editing
import Highlight.Proofs.PatternMeaning
import Highlight.Proofs.CleanRuns
import Highlight.Proofs.GreedyMatching
import Highlight.Proofs.Fsd.Syntax
import Highlight.Proofs.Fsd.Moves
import Highlight.Proofs.Fsd.Words
import Highlight.Proofs.Fsd.Layout
import Highlight.Proofs.Fsd.QuotedText
import Highlight.Proofs.Fsd.Remarks
import Highlight.Proofs.Fsd.Absorption
import Highlight.Proofs.Fsd.TokenReading
import Highlight.Proofs.Fsd.Recognition
import Highlight.Proofs.Fsd.Stacks
import Highlight.Proofs.Fsd.Keywords
import Highlight.Proofs.Fsd.QuoteBalance
import Highlight.Proofs.Fsd.OpenQuotes
import Highlight.Proofs.TagEnding
import Highlight.Proofs.RunBounds
import Highlight.Proofs.JsonWriting
import Highlight.Proofs.JsonReport
import Highlight.Proofs.RequestOutcome
import Highlight.Proofs.GroupSplitting
import Highlight.Proofs.Counting
import Highlight.Proofs.CaseTables
import Highlight.Proofs.CaseMaps
import Highlight.Proofs.CharSets
import Highlight.Proofs.CaseFolding
import Highlight.Proofs.LineEnds
import Highlight.Proofs.Representation
import Highlight.Proofs.Pieces
import Highlight.Proofs.Fading
import Highlight.Proofs.Rendering
import Highlight.Proofs.ReportRows
