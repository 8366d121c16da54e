import ScriptLang.Builtin
import ScriptLang.CommandLine
import ScriptLang.Decimal.Basic
import ScriptLang.Decimal.Double
import ScriptLang.Decimal.Numeral
import ScriptLang.Decimal.Order
import ScriptLang.Decimal.Quotient
import ScriptLang.Decimal.Shortest
import ScriptLang.Error.Basic
import ScriptLang.Error.Report
import ScriptLang.Evaluation.Builtin
import ScriptLang.Evaluation.Expression
import ScriptLang.Evaluation.Operator
import ScriptLang.Evaluation.Source
import ScriptLang.Evaluation.State
import ScriptLang.Evaluation.Statement
import ScriptLang.Parse.Cursor
import ScriptLang.Parse.Expression
import ScriptLang.Parse.Source
import ScriptLang.Parse.Statement
import ScriptLang.Position
import ScriptLang.Program
import ScriptLang.Scope.Chain
import ScriptLang.Scope.Forest
import ScriptLang.Scope.Frame
import ScriptLang.Session
import ScriptLang.Signature
import ScriptLang.Sink
import ScriptLang.Text.Blank
import ScriptLang.Text.Extending
import ScriptLang.Text.Line
import ScriptLang.Text.Printable
import ScriptLang.Text.Quoted
import ScriptLang.Text.Radix
import ScriptLang.Text.Reader
import ScriptLang.Token.Basic
import ScriptLang.Token.Literal
import ScriptLang.Token.Scan
import ScriptLang.Tree.Basic
import ScriptLang.Ty
import ScriptLang.Typing.Expression
import ScriptLang.Typing.Source
import ScriptLang.Typing.Statement
import ScriptLang.Value
import ScriptLang.Main
import ScriptLang.Proofs.Names
import ScriptLang.Proofs.Plain
import ScriptLang.Proofs.Discipline
import ScriptLang.Proofs.Typed
import ScriptLang.Proofs.Failures
import ScriptLang.Proofs.Flows
import ScriptLang.Proofs.Checked
import ScriptLang.Proofs.RelatedScopes
import ScriptLang.Proofs.Agreement
import ScriptLang.Proofs.Expressions
import ScriptLang.Proofs.Runs
import ScriptLang.Proofs.Classes
import ScriptLang.Proofs.Moments
import ScriptLang.Proofs.TypedMoments
import ScriptLang.Proofs.Preservation
import ScriptLang.Proofs.Resolution
import ScriptLang.Proofs.Safety
import ScriptLang.Proofs.Grammar
import ScriptLang.Proofs.Passage
import ScriptLang.Proofs.Numerals
import ScriptLang.Proofs.Spelled
import ScriptLang.Proofs.Reads
import ScriptLang.Proofs.ExpressionReaders
import ScriptLang.Proofs.StatementReaders
import ScriptLang.Proofs.ProgramReaders
import ScriptLang.Proofs.Follows
import ScriptLang.Proofs.SpelledExpressions
import ScriptLang.Proofs.SpelledStatements
import ScriptLang.Proofs.SpelledPrograms
import ScriptLang.Proofs.Derivations
import ScriptLang.Proofs.Acceptance
import ScriptLang.Proofs.ViablePrefix
import ScriptLang.Proofs.Places
import ScriptLang.Proofs.CheckedPlaces
import ScriptLang.Proofs.RunPlaces
import ScriptLang.Proofs.ErrorPlaces
import ScriptLang.Proofs.Scanner
import ScriptLang.Proofs.Lexemes
import ScriptLang.Proofs.Words
import ScriptLang.Proofs.Tiling
import ScriptLang.Proofs.DisplayedNumbers
import ScriptLang.Proofs.Rendering
import ScriptLang.Proofs.RenderedWords
import ScriptLang.Proofs.RoundTrip
import ScriptLang.Proofs.MomentPaths
import ScriptLang.Proofs.Comparables
import ScriptLang.Proofs.FrameLaws
import ScriptLang.Proofs.Outlines
import ScriptLang.Proofs.Accesses
import ScriptLang.Proofs.ListShapes
import ScriptLang.Proofs.Quotients
import ScriptLang.Proofs.Divisions
import ScriptLang.Proofs.Alike
import ScriptLang.Proofs.Simulation
import ScriptLang.Proofs.Erasure
import ScriptLang.Proofs.UndecoratedRuns
import ScriptLang.Proofs.Constants
import ScriptLang.Proofs.Elements
import ScriptLang.Proofs.CallFrames
import ScriptLang.Proofs.StatementScopes
import ScriptLang.Proofs.RelocatedChecks
import ScriptLang.Proofs.Layout
import ScriptLang.Proofs.FunctionOrder
import ScriptLang.Proofs.ReorderedRuns
import ScriptLang.Proofs.ReadTrees
import ScriptLang.Proofs.Defences
import ScriptLang.Proofs.Decorations
import ScriptLang.Proofs.Truncation
import ScriptLang.Proofs.IssuedWrites
import ScriptLang.Proofs.FailingSinks
import ScriptLang.Proofs.Spellings
import ScriptLang.Proofs.AppendedLines
import ScriptLang.Proofs.LongestMatch
import ScriptLang.Proofs.CanonicalReads
import ScriptLang.Proofs.Precedence
import ScriptLang.Proofs.Nodes
import ScriptLang.Proofs.Excerpts
import ScriptLang.Proofs.Spans
import ScriptLang.Proofs.ClosedExpressions
import ScriptLang.Proofs.Redecoration
import ScriptLang.Proofs.Annotations
import ScriptLang.Proofs.Grouping
import ScriptLang.Proofs.ScopeChains
import ScriptLang.Proofs.ScopeOperations
import ScriptLang.Proofs.ChainScopes
import ScriptLang.Proofs.ScopeRuns
import ScriptLang.Proofs.ScopeChecks
import ScriptLang.Proofs.ValueOrder
import ScriptLang.Proofs.Lines
import ScriptLang.Proofs.Carets
import ScriptLang.Proofs.Fuel
import ScriptLang.Proofs.CallGraph
import ScriptLang.Proofs.Finishing
import ScriptLang.Proofs.Termination
import ScriptLang.Proofs.Unrolling
import ScriptLang.Proofs.Advances
import ScriptLang.Proofs.Depth
import ScriptLang.Proofs.Progress
