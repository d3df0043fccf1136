import Amend.Main
import Amend.Proofs.Json.Members
import Amend.Proofs.Path.Segments
import Amend.Proofs.Path.Slot
import Amend.Proofs.Path.Update
import Amend.Proofs.Path.Lens
import Amend.Proofs.Path.Frame
import Amend.Proofs.Path.Growth
import Amend.Proofs.Operator.Attempt
import Amend.Proofs.Engine.Run
import Amend.Proofs.Unicode.Text
import Amend.Proofs.Json.WellFormed
import Amend.Proofs.Rule.Order
import Amend.Proofs.Rule.Policy
import Amend.Proofs.Engine.Substitution
import Amend.Proofs.Path.Place
import Amend.Proofs.Engine.Guard
import Amend.Proofs.Json.Reordered
import Amend.Proofs.Path.Commute
import Amend.Proofs.Engine.Independence
import Amend.Proofs.Outcome
import Amend.Proofs.Operator.Settled
import Amend.Proofs.Engine.Retry
import Amend.Proofs.Json.Reader
import Amend.Proofs.Rule.Meaning
import Amend.Proofs.Engine.Factoring
import Amend.Proofs.Binary64.Rounding
import Amend.Proofs.Binary64.Integers
import Amend.Proofs.Json.Integers
import Amend.Proofs.Json.Comparison
import Amend.Proofs.Operator.Arithmetic
import Amend.Proofs.Operator.Rounding
import Amend.Proofs.Operator.Confusion
import Amend.Proofs.Schema.Conformance
import Amend.Proofs.Operator.Refusal
import Amend.Proofs.Schema.Progress
import Amend.Proofs.Binary64.Places
import Amend.Proofs.Json.Magnitude
import Amend.Proofs.Rule.Spelling
import Amend.Proofs.Rule.Required
import Amend.Proofs.Rule.Grammar
import Amend.Proofs.Rule.Reading
import Amend.Proofs.Json.Related
import Amend.Proofs.Json.Equality
import Amend.Proofs.Operator.Remainder
import Amend.Proofs.Operator.Closure
import Amend.Proofs.Operator.Agreement
import Amend.Proofs.Path.Related
import Amend.Proofs.Operator.Spelling
import Amend.Proofs.Rule.Rearrangement
import Amend.Proofs.Engine.Grouping
import Amend.Proofs.Engine.Comparison
import Amend.Proofs.Engine.Account
import Amend.Proofs.Engine.Composition
import Amend.Proofs.Engine.RoundTrip
import Amend.Proofs.Engine.Observation
import Amend.Proofs.CommandLine.Reading
import Amend.Proofs.CommandLine.StandardInput
import Amend.Proofs.IntegerClass.Fibonacci
import Amend.Proofs.IntegerClass.Power
import Amend.Proofs.IntegerClass.Primality
import Amend.Proofs.Binary64.Quotient
import Amend.Proofs.Binary64.Integral
import Amend.Proofs.Rule.Multiple
import Amend.Proofs.Rule.Parity
import Amend.Proofs.Binary64.Value
import Amend.Proofs.Binary64.Logarithm
import Amend.Proofs.Rule.Power
import Amend.Proofs.Json.Truncation
import Amend.Proofs.Operator.Union
import Amend.Proofs.Operator.Insertion
import Amend.Proofs.Operator.Removal
import Amend.Proofs.Operator.Cutting
import Amend.Proofs.Operator.Merging
import Amend.Proofs.Operator.Renaming
import Amend.Proofs.Operator.Inversion
import Amend.Proofs.Operator.Words
import Amend.Proofs.Engine.Extremum
import Amend.Proofs.Rule.CardNumber
import Amend.Proofs.Unicode.Ranges
import Amend.Proofs.Pattern.Reach
import Amend.Proofs.Pattern.Word
import Amend.Proofs.Rule.Locator
import Amend.Proofs.Decimal.Exponent
import Amend.Proofs.Decimal.Significant
import Amend.Proofs.Decimal.Written
import Amend.Proofs.Decimal.Precision
import Amend.Proofs.Rule.Idempotence
import Amend.Proofs.Sorting
import Amend.Proofs.Engine.Arrangement
import Amend.Proofs.Schema.RoundTrip
import Amend.Proofs.Json.Literal
import Amend.Proofs.Json.Object
import Amend.Proofs.Log.Line
import Amend.Proofs.Operator.Boundary
