import VarDecl.Text.Basic
import VarDecl.Text.Digit
import VarDecl.Name
import VarDecl.Literal
import VarDecl.Source
import VarDecl.Expression.Parens
import VarDecl.Expression.Fragment
import VarDecl.Expression.Category
import VarDecl.Lexeme
import VarDecl.Declaration
import VarDecl.Declaration.Header
import VarDecl.Diagnostic
import VarDecl.Text.Upper
import VarDecl.Gate
import VarDecl.Report
import VarDecl.Report.Document
import VarDecl.Report.Table
import VarDecl.Ignore.Rules
import VarDecl.File.Sources
import VarDecl.Main
import VarDecl.Proofs.Gate
import VarDecl.Proofs.Analysis.References
import VarDecl.Proofs.Analysis.Names
import VarDecl.Proofs.Program.Agreement
import VarDecl.Proofs.Comment.Lines
import VarDecl.Proofs.Comment.Segments
import VarDecl.Proofs.Source.Numbering
import VarDecl.Proofs.Analysis.Quotation
import VarDecl.Proofs.Analysis.Stripped
import VarDecl.Proofs.Analysis.Passing
import VarDecl.Proofs.Gate.Agreement
import VarDecl.Proofs.Analysis.Extension
import VarDecl.Proofs.Analysis.Shift
import VarDecl.Proofs.Gate.Composition
import VarDecl.Proofs.Gate.Prefix
import VarDecl.Proofs.Gate.Sequence
import VarDecl.Proofs.Analysis.Exchange
import VarDecl.Proofs.Analysis.Omission
import VarDecl.Proofs.Analysis.Strictness
import VarDecl.Proofs.Analysis.Accounting
import VarDecl.Proofs.Analysis.Hints
import VarDecl.Proofs.Analysis.Layout
import VarDecl.Proofs.Analysis.Comments
import VarDecl.Proofs.Analysis.Strings
import VarDecl.Proofs.Analysis.DeclaratorLists
import VarDecl.Proofs.Command.Verdict
import VarDecl.Proofs.Command.Lossless
import VarDecl.Proofs.Report.Lines
import VarDecl.Proofs.Report.Markup
import VarDecl.Proofs.File.Path
import VarDecl.Proofs.File.Tree
import VarDecl.Proofs.File.Walk
import VarDecl.Proofs.File.Reach
import VarDecl.Proofs.Comment.Newlines
import VarDecl.Proofs.Name.Types
import VarDecl.Proofs.Analysis.Printing
import VarDecl.Proofs.Declaration.Grammar
import VarDecl.Proofs.Expression.Operators
import VarDecl.Proofs.Analysis.Parentheses
import VarDecl.Proofs.Expression.Numerals
import VarDecl.Proofs.Suggestion.FirstBest
import VarDecl.Proofs.Lexeme.Respacing
import VarDecl.Proofs.Lexeme.Context
import VarDecl.Proofs.Analysis.Characters
import VarDecl.Proofs.Expression.Splitting
import VarDecl.Proofs.Expression.Spans
