import SchemeReader.Main
import SchemeReader.RoundTrip
import SchemeReader.Token.Loose
import SchemeReader.Proofs.Lexeme
import SchemeReader.Proofs.Lexer.Ahead
import SchemeReader.Proofs.Lexer.Fit
import SchemeReader.Proofs.Token.Meaning
import SchemeReader.Proofs.Lexer.Draw
import SchemeReader.Proofs.Lexer.Agreement
import SchemeReader.Proofs.Lexer.Division
import SchemeReader.Proofs.Lexer.Ending
import SchemeReader.Proofs.Analysis
import SchemeReader.Proofs.RoundTrip
import SchemeReader.Proofs.Parser.Balance
import SchemeReader.Proofs.Parser.Cover
import SchemeReader.Proofs.Analysis.Form
import SchemeReader.Proofs.Analysis.Derivation
import SchemeReader.Proofs.Analysis.Walk
import SchemeReader.Proofs.Analysis.Checks
import SchemeReader.Proofs.Analysis.Normal
import SchemeReader.Proofs.Lexer.Overlong
import SchemeReader.Proofs.Reading.Delivery
import SchemeReader.Proofs.Cli.Command
import SchemeReader.Proofs.Lexer.Sight
import SchemeReader.Proofs.Lexer.Seam
import SchemeReader.Proofs.Reading.Seam
import SchemeReader.Proofs.Text.Chunks
import SchemeReader.Proofs.Text.Lines
import SchemeReader.Proofs.Reading.Layout
import SchemeReader.Proofs.Reading.Lines
import SchemeReader.Proofs.Cli.Lines
import SchemeReader.Proofs.Token.Origin
import SchemeReader.Proofs.Analysis.Levels
import SchemeReader.Proofs.Token.Printed
import SchemeReader.Proofs.Tree.Leaves
import SchemeReader.Proofs.Expr.Formed
import SchemeReader.Proofs.Value.Spelling
import SchemeReader.Proofs.Reading.Formed
import SchemeReader.Proofs.Cli.Options
import SchemeReader.Proofs.Reading.Printed
import SchemeReader.Proofs.Cli.Shown
import SchemeReader.Proofs.Cli.Paste
import SchemeReader.Proofs.Parser.Shared
import SchemeReader.Proofs.Lexer.Pass
import SchemeReader.Proofs.Lexer.Reach
import SchemeReader.Proofs.Lexer.Streaming
import SchemeReader.Proofs.Text.OneLine
import SchemeReader.Proofs.Value.Description
import SchemeReader.Proofs.Analysis.Named
import SchemeReader.Proofs.Reading.Messages
import SchemeReader.Proofs.Cli.Tally
import SchemeReader.Proofs.Analysis.Limit
import SchemeReader.Proofs.Datum.Iteration
import SchemeReader.Proofs.Lexer.Numeral
import SchemeReader.Proofs.Value.Quotation
import SchemeReader.Proofs.Literal.Escape
import SchemeReader.Proofs.Lexer.Answer
import SchemeReader.Proofs.Lexer.StringToken
import SchemeReader.Proofs.Lexer.Refusal
import SchemeReader.Proofs.Text.Requests
import SchemeReader.Proofs.Session
