import MiniPascal.Lookahead
import MiniPascal.Main
import MiniPascal.Syntax.Outline
import MiniPascal.Proofs.Token.Stream
import MiniPascal.Proofs.Token.Spelling
import MiniPascal.Proofs.Token.Gap
import MiniPascal.Proofs.Token.Decomposition
import MiniPascal.Proofs.Token.Scan
import MiniPascal.Proofs.Token.Consumption
import MiniPascal.Proofs.Token.Settling
import MiniPascal.Proofs.Token.Interleaving
import MiniPascal.Proofs.Token.Layout
import MiniPascal.Proofs.Token.Rendering
import MiniPascal.Proofs.Syntax.Assignments
import MiniPascal.Proofs.Syntax.Written
import MiniPascal.Proofs.Grammar.Derivation
import MiniPascal.Proofs.Grammar.Relabel
import MiniPascal.Proofs.Grammar.Height
import MiniPascal.Proofs.Parser.Residual
import MiniPascal.Proofs.Parser.Phrase
import MiniPascal.Proofs.Parser.Expressions
import MiniPascal.Proofs.Parser.Productions
import MiniPascal.Proofs.Parser.Acceptance
import MiniPascal.Proofs.Parser.Blame
import MiniPascal.Proofs.Parser.RoundTrip
import MiniPascal.Proofs.Parser.TreeHeight
import MiniPascal.Proofs.Evaluation.Arithmetic
import MiniPascal.Proofs.Evaluation.Exact
import MiniPascal.Proofs.Evaluation.DefiniteAssignment
import MiniPascal.Proofs.Naming.Table
import MiniPascal.Proofs.Naming.Listing
import MiniPascal.Proofs.Naming.History
import MiniPascal.Proofs.Naming.Uses
import MiniPascal.Proofs.Parser.Names
import MiniPascal.Proofs.Naming.Resolution
import MiniPascal.Proofs.Naming.Rearrangement
import MiniPascal.Proofs.Evaluation.Exchange
import MiniPascal.Proofs.Decimal.Unbroken
import MiniPascal.Proofs.Evaluation.Kinds
import MiniPascal.Proofs.Lookahead.PlainList
import MiniPascal.Proofs.Parser.Places
import MiniPascal.Proofs.Parser.Steady
import MiniPascal.Proofs.Parser.Demand
import MiniPascal.Proofs.Parser.Counted
import MiniPascal.Proofs.Cli.Outcome
import MiniPascal.Proofs.Cli.Printout
import MiniPascal.Proofs.Parser.Balance
import MiniPascal.Proofs.Evaluation.Division
import MiniPascal.Proofs.Token.Literals
import MiniPascal.Proofs.Lookahead.BufferedLexer
