import Wiring.OrderedMap
import Wiring.Text.Hexadecimal
import Wiring.Text.Letter
import Wiring.Text.Identifier
import Wiring.Text.Newline
import Wiring.Text.CharacterName.Table
import Wiring.Text.CharacterName
import Wiring.Text.Pieces
import Wiring.Text.Quoted
import Wiring.Text.Utf8
import Wiring.TypeKey.Basic
import Wiring.TypeKey.Index
import Wiring.Provider
import Wiring.Digraph.Basic
import Wiring.Digraph.Cycle
import Wiring.Digraph.Order
import Wiring.Container.Node
import Wiring.Container.Error
import Wiring.Container.Basic
import Wiring.Container.Construction
import Wiring.Container.Order
import Wiring.Container.Ledger
import Wiring.Container.Population
import Wiring.Source.Keyword
import Wiring.Source.Token
import Wiring.Source.Lexeme
import Wiring.Source.Scan
import Wiring.Source.Expr
import Wiring.Source.Stmt
import Wiring.Source.Literal
import Wiring.Source.Grammar.Basic
import Wiring.Source.Grammar.Argument
import Wiring.Source.Grammar.Expression
import Wiring.Source.Grammar.Pattern
import Wiring.Source.Grammar.Statement
import Wiring.Source.Reader
import Wiring.Declaration.Builtin
import Wiring.Declaration.Basic
import Wiring.Declaration.Collection
import Wiring.Declaration.MethodSet
import Wiring.Declaration.Environment
import Wiring.Declaration.Extraction
import Wiring.Variable.Basename
import Wiring.Variable.Namer
import Wiring.Project.Path
import Wiring.Project.Pattern
import Wiring.Project.Tree
import Wiring.Project.Build
import Wiring.CommandLine.Arguments
import Wiring.CommandLine.Report
import Wiring.CommandLine.Markup
import Wiring.CommandLine.Console
import Wiring.CommandLine.Basic
import Wiring.Main
import Wiring.Proofs.Digraph.Reach
import Wiring.Proofs.Digraph.Cycle
import Wiring.Proofs.Digraph.Search
import Wiring.Proofs.Digraph.Frontier
import Wiring.Proofs.Digraph.Order
import Wiring.Proofs.Digraph.LeastOrder
import Wiring.Proofs.Failure
import Wiring.Proofs.Source.Scan
import Wiring.Proofs.Source.Rule
import Wiring.Proofs.Source.Expression
import Wiring.Proofs.TypeKey.Index
import Wiring.Proofs.TypeKey.Refinement
import Wiring.Proofs.TypeKey.WellFormed
import Wiring.Proofs.TypeKey.Runnable
import Wiring.Proofs.Container.History
import Wiring.Proofs.Container.Ledger
import Wiring.Proofs.Container.Counter
import Wiring.Proofs.Container.Consistent
import Wiring.Proofs.Container.Edges
import Wiring.Proofs.Container.Agreement
import Wiring.Proofs.Container.Cycle
import Wiring.Proofs.Container.BuildOrder
import Wiring.Proofs.Container.Numbering
import Wiring.Proofs.Container.Refinement
import Wiring.Proofs.Container.Population
import Wiring.Proofs.Container.Answers
import Wiring.Proofs.Container.Renumbering
import Wiring.Proofs.Container.Outcome
import Wiring.Proofs.Container.Persistence
import Wiring.Proofs.Container.Diagnostics
import Wiring.Proofs.Container.Permutation
import Wiring.Proofs.Container.Filling
import Wiring.Proofs.Container.Insertion
import Wiring.Proofs.Container.Interleaving
import Wiring.Proofs.Container.Stability
import Wiring.Proofs.Container.Unmet
import Wiring.Proofs.Container.Schedule
import Wiring.Proofs.Container.Frame
import Wiring.Proofs.Declaration.MethodSet
import Wiring.Proofs.Declaration.Search
import Wiring.Proofs.Declaration.Walk
import Wiring.Proofs.Declaration.Hierarchy
import Wiring.Proofs.Declaration.Inheritance
import Wiring.Proofs.Declaration.WellFormed
import Wiring.Proofs.Declaration.Import
import Wiring.Proofs.Declaration.Annotation
import Wiring.Proofs.Declaration.Collection
import Wiring.Proofs.Declaration.Traversal
import Wiring.Proofs.Declaration.Composition
import Wiring.Proofs.Declaration.Subclass
import Wiring.Proofs.Project.Build
import Wiring.Proofs.Project.Import
import Wiring.Proofs.Project.Reference
import Wiring.Proofs.Project.Directory
import Wiring.Proofs.Project.Exclusion
import Wiring.Proofs.Project.Isolation
import Wiring.Proofs.Project.Listing
import Wiring.Proofs.CommandLine.Console
import Wiring.Proofs.CommandLine.Check
import Wiring.Proofs.Variable.Basename
import Wiring.Proofs.Variable.Ending
import Wiring.Proofs.Variable.Namer
import Wiring.Proofs.CommandLine.Naming
import Wiring.Proofs.CommandLine.Requirers
import Wiring.Proofs.CommandLine.Names
import Wiring.Proofs.CommandLine.Insertion
import Wiring.Proofs.Declaration.Reading
import Wiring.Proofs.Declaration.Termination
import Wiring.Proofs.Declaration.Reorder
import Wiring.Proofs.Declaration.Scope
import Wiring.Proofs.Declaration.Shadowing
import Wiring.Proofs.Declaration.Quotation
import Wiring.Proofs.Declaration.Optional
import Wiring.Proofs.TypeKey.Bare
import Wiring.Proofs.Variable.Bare
import Wiring.Proofs.Container.Bare
import Wiring.Proofs.Session
import Wiring.Proofs.Wording
import Wiring.Proofs.Source.Statement
import Wiring.Proofs.Project.Keys
import Wiring.Proofs.Project.Nested
import Wiring.Proofs.Variable.Usable
import Wiring.Proofs.Variable.Edit
import Wiring.Proofs.Variable.FirstRequest
import Wiring.Proofs.Variable.Identifier
import Wiring.Proofs.Variable.Numeral
