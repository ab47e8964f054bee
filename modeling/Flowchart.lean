import Flowchart.Change.Debouncer
import Flowchart.Change.Pipeline
import Flowchart.Chart.Dot
import Flowchart.Chart.Format
import Flowchart.Chart.Graph
import Flowchart.Chart.Json
import Flowchart.Chart.Mermaid
import Flowchart.CommandLine.Arguments
import Flowchart.CommandLine.Option
import Flowchart.CommandLine.Run
import Flowchart.CommandLine.Usage
import Flowchart.Fault
import Flowchart.Fault.Line
import Flowchart.Files.Path
import Flowchart.Files.Storage
import Flowchart.Files.Host
import Flowchart.Files.Renderer
import Flowchart.Grammar.Automaton
import Flowchart.Grammar.Closure
import Flowchart.Grammar.Compaction
import Flowchart.Grammar.Production
import Flowchart.Grammar.Rule
import Flowchart.Grammar.Table
import Flowchart.Grammar.TokenSet
import Flowchart.Grammar.Vocabulary
import Flowchart.Lexical.Confusion
import Flowchart.Lexical.Pattern
import Flowchart.Lexical.Scan
import Flowchart.Log
import Flowchart.Main
import Flowchart.Parsing.Language
import Flowchart.Parsing.Parser
import Flowchart.Parsing.Phrase
import Flowchart.Parsing.Progress
import Flowchart.Parsing.Recovery
import Flowchart.Parsing.Reduce
import Flowchart.Parsing.Shown
import Flowchart.Parsing.Stack
import Flowchart.Proofs.Change.Debouncer
import Flowchart.Proofs.Change.Record
import Flowchart.Proofs.Change.Served
import Flowchart.Proofs.Chart.Beside
import Flowchart.Proofs.Chart.Built
import Flowchart.Proofs.Chart.Closed
import Flowchart.Proofs.Chart.Json
import Flowchart.Proofs.Chart.Mermaid
import Flowchart.Proofs.Json.Grammar
import Flowchart.Proofs.Json.Printed
import Flowchart.Proofs.Json.Unambiguous
import Flowchart.Proofs.Render.Record
import Flowchart.Proofs.Statement.Arrows
import Flowchart.Proofs.Statement.Slots
import Flowchart.Proofs.Statement.Spanning
import Flowchart.Proofs.Statement.Table
import Flowchart.Proofs.Text.Span
import Flowchart.Proofs.Text.Taking
import Flowchart.Proofs.Tree.Lowering
import Flowchart.Proofs.Walk.Grounded
import Flowchart.Proofs.Walk.Plan
import Flowchart.Proofs.Walk.Reading
import Flowchart.Proofs.Walk.Region
import Flowchart.Proofs.Walk.Shape
import Flowchart.Proofs.Walk.Shared
import Flowchart.Proofs.Walk.Visits
import Flowchart.Render.Queue
import Flowchart.Render.Surface
import Flowchart.Script.Grammar
import Flowchart.Script.Language
import Flowchart.Script.Layout
import Flowchart.Script.Lexicon
import Flowchart.Script.Parse
import Flowchart.Statement
import Flowchart.Synthesis
import Flowchart.Text.Blank
import Flowchart.Text.Digit
import Flowchart.Text.Quoted
import Flowchart.Text.Similarity
import Flowchart.Text.Span
import Flowchart.Text.Word
import Flowchart.Tree
import Flowchart.Tree.Cursor
import Flowchart.Tree.Error
import Flowchart.Tree.Lowering
import Flowchart.Walk
import Flowchart.Proofs.Chart.Additions
import Flowchart.Proofs.Chart.Dot
import Flowchart.Proofs.Render.Session
import Flowchart.Proofs.Statement.Hollow
import Flowchart.Proofs.Walk.Branches
import Flowchart.Proofs.Text.Markup
import Flowchart.Proofs.Chart.Container
import Flowchart.Proofs.Tree.Lowered
import Flowchart.Proofs.Tree.Skeleton
import Flowchart.Proofs.Statement.Order
import Flowchart.Proofs.Walk.Order
import Flowchart.Proofs.Tree.Order
import Flowchart.Proofs.Files.Renderer
import Flowchart.Proofs.Files.Storage
import Flowchart.Proofs.CommandLine.Arguments
import Flowchart.Proofs.CommandLine.Run
import Flowchart.Proofs.Tree.Levels
import Flowchart.Proofs.Tree.Search
import Flowchart.Proofs.Walk.Offence
import Flowchart.Proofs.Walk.Stop
import Flowchart.Proofs.Walk.Braces
import Flowchart.Proofs.Walk.Cut
import Flowchart.Proofs.Walk.Told
import Flowchart.Proofs.Change.History
import Flowchart.Proofs.Text.Token
import Flowchart.Proofs.Tree.Message
import Flowchart.Proofs.Text.First
import Flowchart.Proofs.Text.Numeral
import Flowchart.Proofs.Fault.Line
import Flowchart.Proofs.Walk.Text
