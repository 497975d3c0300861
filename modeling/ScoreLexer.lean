import ScoreLexer.Document.Indent
import ScoreLexer.Lexer.Expectation
import ScoreLexer.Main
import ScoreLexer.Stack.Checkpoint
import ScoreLexer.Proofs.Document.Editing
import ScoreLexer.Proofs.Lexer.Coverage
import ScoreLexer.Proofs.Pattern.Locality
import ScoreLexer.Proofs.Token.Recognition
import ScoreLexer.Proofs.Lexer.Run
import ScoreLexer.Proofs.Pattern.Match
import ScoreLexer.Proofs.Lexer.LineBoundary
import ScoreLexer.Proofs.Document.WholeText
import ScoreLexer.Proofs.Pattern.Opening
import ScoreLexer.Proofs.Lexer.Reading
import ScoreLexer.Proofs.Score.Grammar
import ScoreLexer.Proofs.Score.Reading
import ScoreLexer.Proofs.Score.Balance
import ScoreLexer.Proofs.Lexer.Moments
import ScoreLexer.Proofs.Stack.ArgumentCounts
import ScoreLexer.Proofs.Stack.Nesting
import ScoreLexer.Proofs.Lexer.Argument
import ScoreLexer.Proofs.Markup.Grammar
import ScoreLexer.Proofs.Pattern.Taking
import ScoreLexer.Proofs.Markup.Reading
import ScoreLexer.Proofs.Scheme.Grammar
import ScoreLexer.Proofs.Scheme.Tokens
import ScoreLexer.Proofs.Scheme.Reading
import ScoreLexer.Proofs.Lexer.Stages
import ScoreLexer.Proofs.Stack.Bases
import ScoreLexer.Proofs.Lexer.Bases
import ScoreLexer.Proofs.Json.Tokens
import ScoreLexer.Proofs.Json.Reading
import ScoreLexer.Proofs.Stack.Checkpoint
import ScoreLexer.Proofs.Lexer.Agreement
import ScoreLexer.Proofs.Settings.Repetition
import ScoreLexer.Proofs.Lexer.Indentation
import ScoreLexer.Proofs.Document.Reindenting
import ScoreLexer.Proofs.Lexer.Priority
import ScoreLexer.Proofs.Document.Listing
import ScoreLexer.Proofs.Command.Check
import ScoreLexer.Proofs.Settings.Layers
import ScoreLexer.Proofs.Settings.Declaration
import ScoreLexer.Proofs.Lexer.Strings
import ScoreLexer.Proofs.Lexer.Comments
import ScoreLexer.Proofs.Lexer.Commands
import ScoreLexer.Proofs.Markup.Names
import ScoreLexer.Proofs.Document.Reach
import ScoreLexer.Proofs.Markup.Braces
import ScoreLexer.Proofs.Document.TrailingNewline
import ScoreLexer.Proofs.Document.ReflectedDepth
import ScoreLexer.Proofs.Lexicon.MarkupArity
import ScoreLexer.Proofs.Pattern.Spelling
import ScoreLexer.Proofs.Lexer.LongestWord
import ScoreLexer.Proofs.Token.Numeric
import ScoreLexer.Proofs.Stack.Countdown
import ScoreLexer.Proofs.Score.Lengths
