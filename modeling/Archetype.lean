import Archetype.Analysis
import Archetype.Assoc
import Archetype.Check.Composed
import Archetype.Check.Declared
import Archetype.Check.Placed
import Archetype.Check.Queried
import Archetype.Check.Tracked
import Archetype.Code.Escape
import Archetype.Code.Field
import Archetype.Code.Grammar.Expression
import Archetype.Code.Grammar.Parameters
import Archetype.Code.Grammar.Pattern
import Archetype.Code.Grammar.Statement
import Archetype.Code.Grammar.Target
import Archetype.Code.Levels
import Archetype.Code.Lexer
import Archetype.Code.Numeral
import Archetype.Code.Parser
import Archetype.Code.Position
import Archetype.Code.Token
import Archetype.Code.Tree
import Archetype.Command
import Archetype.Command.Arguments
import Archetype.Command.Project
import Archetype.Config
import Archetype.Config.Load
import Archetype.Constraint.Cycle
import Archetype.Constraint.Graph
import Archetype.Constraint.Order
import Archetype.Decimal.Notation
import Archetype.Decimal.Shortest
import Archetype.Declaration
import Archetype.Declaration.Shape
import Archetype.FileTree
import Archetype.Finding
import Archetype.Main
import Archetype.Names
import Archetype.Path
import Archetype.Program
import Archetype.Program.Load
import Archetype.Program.Unit
import Archetype.Proofs.CycleReport
import Archetype.Proofs.CycleSearch
import Archetype.Proofs.Dependency
import Archetype.Proofs.Fingerprint
import Archetype.Proofs.FurtherConstraints
import Archetype.Proofs.Loading
import Archetype.Proofs.PathText
import Archetype.Proofs.Recorded
import Archetype.Proofs.Resolution
import Archetype.Proofs.SessionRun
import Archetype.Proofs.SessionState
import Archetype.Proofs.Tracking
import Archetype.Proofs.Watching
import Archetype.Proofs.WellFormed
import Archetype.Registry
import Archetype.Report.Console
import Archetype.Report.Graph
import Archetype.Report.Json
import Archetype.Report.Lint
import Archetype.Report.Markup
import Archetype.Report.Picture
import Archetype.Report.Picture.AToD
import Archetype.Report.Picture.Digits
import Archetype.Report.Picture.EToL
import Archetype.Report.Picture.MToP
import Archetype.Report.Picture.QToT
import Archetype.Report.Picture.UToZ
import Archetype.Report.Registry
import Archetype.Report.Style
import Archetype.Report.Table
import Archetype.Report.Trace
import Archetype.Resolve.Scope
import Archetype.Resolve.Symbol
import Archetype.Rule
import Archetype.Rule.Explanation
import Archetype.Rule.Message
import Archetype.Rule.Problem
import Archetype.Session
import Archetype.Setting
import Archetype.Text.Blank
import Archetype.Text.Case
import Archetype.Text.Case.Tables
import Archetype.Text.CharName
import Archetype.Text.CharName.Aliases
import Archetype.Text.CharName.Alphabets
import Archetype.Text.CharName.Ancient
import Archetype.Text.CharName.Ideographs
import Archetype.Text.CharName.Pictures
import Archetype.Text.CharName.Signs
import Archetype.Text.CharName.Syllables
import Archetype.Text.CodePoints
import Archetype.Text.Digest
import Archetype.Text.Glob
import Archetype.Text.Identifier
import Archetype.Text.NormalForm
import Archetype.Text.NormalForm.Tables
import Archetype.Text.Printable
import Archetype.Text.Quoted
import Archetype.Text.Ranges
import Archetype.Text.Similarity
import Archetype.Text.Split
import Archetype.Text.Width
import Archetype.Text.Wrap
import Archetype.Toml.Document
import Archetype.Toml.Number
import Archetype.Toml.Reader
import Archetype.Toml.Text
import Archetype.Toml.Value
import Archetype.Watch.Debounce
import Archetype.Watch.Loop
import Archetype.Watch.Watcher
import Archetype.Proofs.AttachOrder
import Archetype.Proofs.Chains
import Archetype.Proofs.Replay
import Archetype.Proofs.StraightLine
import Archetype.Proofs.Compositions
import Archetype.Proofs.QueryVerdict
import Archetype.Proofs.Severity
import Archetype.Proofs.ProjectGraph
import Archetype.Proofs.UnitOrder
import Archetype.Proofs.Shown
import Archetype.Proofs.OneSnapshot
import Archetype.Proofs.Debouncing
import Archetype.Proofs.CycleCover
import Archetype.Proofs.Construction
import Archetype.Proofs.Countdown
import Archetype.Proofs.OwnImports
import Archetype.Proofs.StarImports
import Archetype.Proofs.TemplateReports
import Archetype.Proofs.OwnNames
import Archetype.Proofs.Canonical
import Archetype.Proofs.RegistryUnion
import Archetype.Proofs.Forgotten
import Archetype.Proofs.Contents
import Archetype.Proofs.Repetitions
import Archetype.Proofs.ConflictModes
import Archetype.Proofs.Contradictions
import Archetype.Proofs.RelativeImports
import Archetype.Proofs.OptionForms
import Archetype.Proofs.ReceiverChains
import Archetype.Proofs.Rotations
import Archetype.Proofs.Drawing
import Archetype.Proofs.BadFiles
import Archetype.Proofs.ConfigReading
import Archetype.Proofs.Shadowing
import Archetype.Proofs.Adjacency
