import Scriptlet.Main
import Scriptlet.Scenario
import Scriptlet.ScopeTree
import Scriptlet.Proofs.Grammar
import Scriptlet.Proofs.Readers
import Scriptlet.Proofs.Soundness
import Scriptlet.Proofs.Completeness
import Scriptlet.Proofs.NameChecks
import Scriptlet.Proofs.Agreement
import Scriptlet.Proofs.Truncation
import Scriptlet.Proofs.Segments
import Scriptlet.Proofs.Lexemes
import Scriptlet.Proofs.LineCuts
import Scriptlet.Proofs.Segmentation
import Scriptlet.Proofs.ScannerRuns
import Scriptlet.Proofs.Scanning
import Scriptlet.Proofs.Respelling
import Scriptlet.Proofs.Programs
import Scriptlet.Proofs.Utf8
import Scriptlet.Proofs.Runs
import Scriptlet.Proofs.Dialogues
import Scriptlet.Proofs.Binary64
import Scriptlet.Proofs.ShortestDecimals
import Scriptlet.Proofs.Numerals
import Scriptlet.Proofs.Composition
import Scriptlet.Proofs.RoundTrip
import Scriptlet.Proofs.Positions
import Scriptlet.Proofs.Alignment
import Scriptlet.Proofs.Formatting
import Scriptlet.Proofs.Descent
import Scriptlet.Proofs.DescentRuns
import Scriptlet.Proofs.Nesting
import Scriptlet.Proofs.ParsingSafety
import Scriptlet.Proofs.FiniteNumbers
import Scriptlet.Proofs.JsonTexts
import Scriptlet.Proofs.JsonNumbers
import Scriptlet.Proofs.Traces
import Scriptlet.Proofs.TraceRecords
import Scriptlet.Proofs.SourceLines
import Scriptlet.Proofs.Summaries
import Scriptlet.Proofs.ErrorPlaces
import Scriptlet.Proofs.ParseModes
import Scriptlet.Proofs.Histories
import Scriptlet.Proofs.TokenKinds
import Scriptlet.Proofs.Mending
import Scriptlet.Proofs.Viability
import Scriptlet.Proofs.Continuations
import Scriptlet.Proofs.ScopeTrees
import Scriptlet.Proofs.Cancellation
import Scriptlet.Proofs.Resuming
import Scriptlet.Proofs.Parentheses
import Scriptlet.Proofs.Containment
import Scriptlet.Proofs.LineJoins
import Scriptlet.Proofs.CommentSearch
import Scriptlet.Proofs.WholeNumbers
import Scriptlet.Proofs.LastValues
import Scriptlet.Proofs.Entries
import Scriptlet.Proofs.Kinds
import Scriptlet.Proofs.Wrapping
import Scriptlet.Proofs.Quoting
import Scriptlet.Proofs.TreeDumps
import Scriptlet.Proofs.Relocation
import Scriptlet.Proofs.ErrorOrder
import Scriptlet.Proofs.Respacing
