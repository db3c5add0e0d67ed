import Reckoner.Main
import Reckoner.Proofs.Formula.Grammar
import Reckoner.Proofs.Formula.Phrase
import Reckoner.Proofs.Formula.Stream
import Reckoner.Proofs.Formula.Reading
import Reckoner.Proofs.Formula.Levels
import Reckoner.Proofs.Formula.Sentences
import Reckoner.Proofs.Token.Spaced
import Reckoner.Proofs.Formula.Height
import Reckoner.Proofs.Line.Isolation
import Reckoner.Proofs.Token.Junction
import Reckoner.Proofs.Token.Minus
import Reckoner.Proofs.Formula.Minus
import Reckoner.Proofs.Evaluation.Denotation
import Reckoner.Proofs.Line.Minus
import Reckoner.Proofs.Decimal.Order
import Reckoner.Proofs.Evaluation.Expression
import Reckoner.Proofs.Line.Effect
import Reckoner.Proofs.Formula.Ahead
import Reckoner.Proofs.Decimal.Exact
import Reckoner.Proofs.Line.Lexical
import Reckoner.Proofs.Evaluation.Exact
import Reckoner.Proofs.Token.Written
import Reckoner.Proofs.Evaluation.Sound
import Reckoner.Proofs.Line.Reached
import Reckoner.Proofs.Token.Munch
import Reckoner.Proofs.Line.Assignment
import Reckoner.Proofs.Decimal.Text
import Reckoner.Proofs.Formula.Printed
import Reckoner.Proofs.Line.Printed
import Reckoner.Proofs.Formula.Sums
import Reckoner.Proofs.Line.Chain
import Reckoner.Proofs.Line.Independent
import Reckoner.Proofs.Token.Rendered
import Reckoner.Proofs.Output.Notation
import Reckoner.Proofs.Line.Spans
import Reckoner.Proofs.Decimal.Significant
import Reckoner.Proofs.Decimal.Division
import Reckoner.Proofs.Decimal.Scaling
import Reckoner.Proofs.Evaluation.Quotient
import Reckoner.Proofs.Command.Dialogue
import Reckoner.Proofs.Formula.Settled
import Reckoner.Proofs.Formula.Begun
import Reckoner.Proofs.Token.Spelled
import Reckoner.Proofs.Formula.Prefixes
import Reckoner.Proofs.Formula.Limit
import Reckoner.Proofs.Formula.Depth
import Reckoner.Proofs.Output.Fixed
import Reckoner.Proofs.Token.Layout
import Reckoner.Proofs.Line.Overwrites
import Reckoner.Proofs.Evaluation.NonNumbers
import Reckoner.Proofs.Binary64.Rounding
import Reckoner.Proofs.Binary64.Sign
import Reckoner.Proofs.Binary64.Scientific
import Reckoner.Proofs.Binary64.Conversion
import Reckoner.Proofs.Evaluation.Domain
import Reckoner.Proofs.Evaluation.Comparison
import Reckoner.Proofs.Formula.Places
import Reckoner.Proofs.Formula.Postfix
import Reckoner.Proofs.Line.Separation
