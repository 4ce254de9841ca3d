import PythonSyntax.Text
import PythonSyntax.Binary64
import PythonSyntax.Binary64.Numeral
import PythonSyntax.Binary64.Shortest
import PythonSyntax.Digits
import PythonSyntax.Unicode.Normalization
import PythonSyntax.Unicode.CharacterName
import PythonSyntax.Json
import PythonSyntax.Source
import PythonSyntax.SyntaxError
import PythonSyntax.Token
import PythonSyntax.Lexeme
import PythonSyntax.Layout
import PythonSyntax.Tree.Constant
import PythonSyntax.Tree.Expr
import PythonSyntax.Tree.Stmt
import PythonSyntax.Tree.Json
import PythonSyntax.Literal.Number
import PythonSyntax.Literal.Escape
import PythonSyntax.Literal.Quoted
import PythonSyntax.Target
import PythonSyntax.Parser.Basic
import PythonSyntax.Parser.Rule
import PythonSyntax.Parser.FormattedString
import PythonSyntax.Parser.Expression
import PythonSyntax.Parser.Statement
import PythonSyntax.FileTree
import PythonSyntax.Pattern
import PythonSyntax.Workspace
import PythonSyntax.Dataset
import PythonSyntax.Command
import PythonSyntax.CommandLine
import PythonSyntax.Main
import PythonSyntax.Proofs.Layout.Step
import PythonSyntax.Proofs.Layout.Stream
import PythonSyntax.Proofs.Grammar.Expression
import PythonSyntax.Proofs.Grammar.Statement
import PythonSyntax.Proofs.Lexeme.Split
import PythonSyntax.Proofs.Literal.Bytes
import PythonSyntax.Proofs.Parser.Expression
import PythonSyntax.Proofs.Parser.Statement
import PythonSyntax.Proofs.Tree.Derived
import PythonSyntax.Proofs.Agreement.Expression
import PythonSyntax.Proofs.Agreement.Statement
import PythonSyntax.Proofs.Lexeme.Class
import PythonSyntax.Proofs.LineEnding.Escape
import PythonSyntax.Proofs.LineEnding.Field
import PythonSyntax.Proofs.LineEnding.Literal
import PythonSyntax.Proofs.LineEnding.Program
import PythonSyntax.Proofs.Agreement.Verbatim
import PythonSyntax.Proofs.Concat.Layout
import PythonSyntax.Proofs.Concat.Parser
import PythonSyntax.Proofs.Concat.Program
import PythonSyntax.Proofs.Nesting
import PythonSyntax.Proofs.Spelling.RoundTrip
import PythonSyntax.Proofs.Parser.Progress
import PythonSyntax.Proofs.Formatted.RoundTrip
import PythonSyntax.Proofs.Recursion.Chain
import PythonSyntax.Proofs.Recursion.Height
import PythonSyntax.Proofs.Document.Injective
import PythonSyntax.Proofs.Span.Program
import PythonSyntax.Proofs.Enclosed.Expression
import PythonSyntax.Proofs.Enclosed.Program
import PythonSyntax.Proofs.Enclosed.Parenthesized
import PythonSyntax.Proofs.Dataset.Partition
import PythonSyntax.Proofs.Insertion
import PythonSyntax.Proofs.Literal.Decode
import PythonSyntax.Proofs.Dataset.Lines
import PythonSyntax.Proofs.Dataset.Again
import PythonSyntax.Proofs.Suite.Program
import PythonSyntax.Proofs.Indexed.Program
import PythonSyntax.Proofs.Indexed.Built
import PythonSyntax.Proofs.Literal.Number
import PythonSyntax.Proofs.Literal.Closing
import PythonSyntax.Proofs.Target.Spine
import PythonSyntax.Proofs.Spelling.ParameterList
import PythonSyntax.Proofs.Spelling.ArgumentList
import PythonSyntax.Proofs.Layout.Exact
import PythonSyntax.Proofs.Layout.Reindent
import PythonSyntax.Proofs.Position
import PythonSyntax.Proofs.Formatted.Adjacent
import PythonSyntax.Proofs.Formatted.Spec
import PythonSyntax.Proofs.Formatted.SelfDocumented
import PythonSyntax.Proofs.Formatted.Lexed
import PythonSyntax.Proofs.Span.Label
import PythonSyntax.Proofs.Origin.Program
